import Mathlib.Data.List.Basic

namespace JsonText
set_option autoImplicit true

/-- What a text of the grammar stands for. A number stands for its digits. -/
inductive Json where
  | null
  | bool (b : Bool)
  | number (text : List Char)
  | string (text : List Char)
  | array (items : List Json)
  | object (members : List (String × Json))

def isWs (c : Char) : Bool := c = ' ' || c = '\t' || c = '\n' || c = '\r'

/-- White space at the front of a text, and what is behind it. -/
inductive Ws : List Char → List Char → Prop where
  | nil : Ws text text
  | cons : isWs c = true → Ws text rest → Ws (c :: text) rest

def Digits (text : List Char) : Prop := text ≠ [] ∧ ∀ c ∈ text, c.isDigit = true

/-- `int`: a zero, or digits that do not begin with one. -/
def Whole (text : List Char) : Prop :=
  text = ['0'] ∨ (Digits text ∧ text.head? ≠ some '0')

/-- `[ frac ]` -/
def Fraction (text : List Char) : Prop := text = [] ∨ ∃ digits, Digits digits ∧ text = '.' :: digits

/-- `[ exp ]` -/
def Exponent (text : List Char) : Prop :=
  text = [] ∨ ∃ e sign digits, (e = 'e' ∨ e = 'E') ∧ (sign = [] ∨ sign = ['+'] ∨ sign = ['-']) ∧
    Digits digits ∧ text = e :: (sign ++ digits)

def Number (text : List Char) : Prop :=
  ∃ minus whole fraction exponent, (minus = [] ∨ minus = ['-']) ∧ Whole whole ∧
    Fraction fraction ∧ Exponent exponent ∧ text = minus ++ whole ++ fraction ++ exponent

def isNumberChar (c : Char) : Bool :=
  c.isDigit || c = '.' || c = 'e' || c = 'E' || c = '+' || c = '-'

/-- A number ends where no character goes on with it. -/
def Ends (rest : List Char) : Prop := ∀ c ∈ rest.head?, isNumberChar c = false

def unescaped (c : Char) : Bool := 0x20 ≤ c.toNat && c ≠ '"' && c ≠ '\\'

/-- What is escaped by one character. -/
def shortEscape : Char → Option Char
  | '"' => some '"'
  | '\\' => some '\\'
  | '/' => some '/'
  | 'b' => some '\x08'
  | 'f' => some '\x0c'
  | 'n' => some '\n'
  | 'r' => some '\r'
  | 't' => some '\t'
  | _ => none

def hexDigit (c : Char) : Option Nat :=
  if c.isDigit then some (c.toNat - '0'.toNat)
  else if 'a' ≤ c ∧ c ≤ 'f' then some (c.toNat - 'a'.toNat + 10)
  else if 'A' ≤ c ∧ c ≤ 'F' then some (c.toNat - 'A'.toNat + 10)
  else none

/-- The code unit of four hexadecimal digits. -/
def codeUnit : List Char → Option Nat
  | [a, b, c, d] => do
    return 4096 * (← hexDigit a) + 256 * (← hexDigit b) + 16 * (← hexDigit c) + (← hexDigit d)
  | _ => none

/-- The characters of a string up to its closing quotation mark, what they stand for, and what is
behind the mark. Escaped surrogates stand for a character in pairs. -/
inductive Chars : List Char → List Char → List Char → Prop where
  | close : Chars ('"' :: rest) [] rest
  | plain : unescaped c = true → Chars text s rest → Chars (c :: text) (c :: s) rest
  | short : shortEscape e = some c → Chars text s rest → Chars ('\\' :: e :: text) (c :: s) rest
  | unicode : codeUnit [h₁, h₂, h₃, h₄] = some n → n < 0xD800 ∨ 0xE000 ≤ n →
      Chars text s rest →
      Chars ('\\' :: 'u' :: h₁ :: h₂ :: h₃ :: h₄ :: text) (Char.ofNat n :: s) rest
  | pair : codeUnit [h₁, h₂, h₃, h₄] = some m → 0xD800 ≤ m → m < 0xDC00 →
      codeUnit [l₁, l₂, l₃, l₄] = some n → 0xDC00 ≤ n → n < 0xE000 → Chars text s rest →
      Chars ('\\' :: 'u' :: h₁ :: h₂ :: h₃ :: h₄ :: '\\' :: 'u' :: l₁ :: l₂ :: l₃ :: l₄ :: text)
        (Char.ofNat (0x10000 + 0x400 * (m - 0xD800) + (n - 0xDC00)) :: s) rest

mutual

/-- A value at the front of a text, what it stands for, and what is behind it. -/
inductive Value : List Char → Json → List Char → Prop where
  | null : Value ('n' :: 'u' :: 'l' :: 'l' :: rest) .null rest
  | yes : Value ('t' :: 'r' :: 'u' :: 'e' :: rest) (.bool true) rest
  | no : Value ('f' :: 'a' :: 'l' :: 's' :: 'e' :: rest) (.bool false) rest
  | number : Number text → Ends rest → Value (text ++ rest) (.number text) rest
  | string : Chars text s rest → Value ('"' :: text) (.string s) rest
  | noItems : Ws text (']' :: rest) → Value ('[' :: text) (.array []) rest
  | array : Items text js rest → Value ('[' :: text) (.array js) rest
  | noMembers : Ws text ('}' :: rest) → Value ('{' :: text) (.object []) rest
  | object : Members text ms rest → Value ('{' :: text) (.object ms) rest

/-- The items of an array up to its closing bracket. -/
inductive Items : List Char → List Json → List Char → Prop where
  | last : Ws text t₁ → Value t₁ j t₂ → Ws t₂ (']' :: rest) → Items text [j] rest
  | more : Ws text t₁ → Value t₁ j t₂ → Ws t₂ (',' :: t₃) → Items t₃ js rest →
      Items text (j :: js) rest

/-- The members of an object up to its closing brace. -/
inductive Members : List Char → List (String × Json) → List Char → Prop where
  | last : Ws text ('"' :: t₁) → Chars t₁ name t₂ → Ws t₂ (':' :: t₃) → Ws t₃ t₄ →
      Value t₄ j t₅ → Ws t₅ ('}' :: rest) → Members text [(String.ofList name, j)] rest
  | more : Ws text ('"' :: t₁) → Chars t₁ name t₂ → Ws t₂ (':' :: t₃) → Ws t₃ t₄ →
      Value t₄ j t₅ → Ws t₅ (',' :: t₆) → Members t₆ ms rest →
      Members text ((String.ofList name, j) :: ms) rest

end

/-- A whole text is one value with white space around it. -/
def Document (text : List Char) (j : Json) : Prop :=
  ∃ t₁ t₂, Ws text t₁ ∧ Value t₁ j t₂ ∧ Ws t₂ []

section
variable (escape : Char → List Char)

mutual

/-- A value without white space in front of a text. -/
def render : Json → List Char → List Char
  | .null, rest => 'n' :: 'u' :: 'l' :: 'l' :: rest
  | .bool true, rest => 't' :: 'r' :: 'u' :: 'e' :: rest
  | .bool false, rest => 'f' :: 'a' :: 'l' :: 's' :: 'e' :: rest
  | .number text, rest => text ++ rest
  | .string s, rest => '"' :: (s.flatMap escape ++ '"' :: rest)
  | .array js, rest => '[' :: renderItems js (']' :: rest)
  | .object ms, rest => '{' :: renderMembers ms ('}' :: rest)

def renderItems : List Json → List Char → List Char
  | [], rest => rest
  | [j], rest => render j rest
  | j :: k :: js, rest => render j (',' :: renderItems (k :: js) rest)

def renderMembers : List (String × Json) → List Char → List Char
  | [], rest => rest
  | [(name, j)], rest => '"' :: (name.toList ++ '"' :: ':' :: render j rest)
  | (name, j) :: m :: ms, rest =>
    '"' :: (name.toList ++ '"' :: ':' :: render j (',' :: renderMembers (m :: ms) rest))

end

end

mutual

/-- A property of every number, every string and every member name of a value. -/
def Json.All (number string : List Char → Prop) (name : String → Prop) : Json → Prop
  | .null => True
  | .bool _ => True
  | .number text => number text
  | .string s => string s
  | .array js => AllItems number string name js
  | .object ms => AllMembers number string name ms

def Json.AllItems (number string : List Char → Prop) (name : String → Prop) : List Json → Prop
  | [] => True
  | j :: js => Json.All number string name j ∧ AllItems number string name js

def Json.AllMembers (number string : List Char → Prop) (name : String → Prop) :
    List (String × Json) → Prop
  | [] => True
  | (n, j) :: ms => name n ∧ Json.All number string name j ∧ AllMembers number string name ms

end

/-- A character is escaped so that a string with it reads back. -/
def Kept (escape : Char → List Char) (c : Char) : Prop :=
  (escape c = [c] ∧ unescaped c = true) ∨
    ∃ e, escape c = ['\\', e] ∧ shortEscape e = some c

/-- A character stands for itself where it may not. -/
def Raw (escape : Char → List Char) (c : Char) : Prop :=
  escape c = [c] ∧ unescaped c = false ∧ c ≠ '"' ∧ c ≠ '\\'

theorem Raw.not_kept (h : Raw escape c) : ¬Kept escape c := by
  obtain ⟨hself, hcontrol, -, -⟩ := h
  rintro (⟨-, hplain⟩ | ⟨e, hshort, -⟩)
  · rw [hcontrol] at hplain
    cases hplain
  · rw [hself] at hshort
    cases hshort

theorem chars_kept (h : Kept escape c) :
    Chars (escape c ++ text) s rest ↔ ∃ s', s = c :: s' ∧ Chars text s' rest := by
  rcases h with ⟨hescape, hplain⟩ | ⟨e, hescape, hshort⟩
  · rw [hescape]
    constructor
    · intro h
      cases h with
      | close => exact absurd hplain (by decide)
      | plain _ htext => exact ⟨_, rfl, htext⟩
      | short => exact absurd hplain (by decide)
      | unicode => exact absurd hplain (by decide)
      | pair => exact absurd hplain (by decide)
    · rintro ⟨s', rfl, htext⟩
      exact .plain hplain htext
  · rw [hescape]
    constructor
    · intro h
      cases h with
      | plain hplain => exact absurd hplain (by decide)
      | short hshort' htext =>
        cases hshort.symm.trans hshort'
        exact ⟨_, rfl, htext⟩
      | unicode => cases hshort
      | pair => cases hshort
    · rintro ⟨s', rfl, htext⟩
      exact .short hshort htext

theorem chars_raw (h : Raw escape c) : ¬Chars (escape c ++ text) s rest := by
  obtain ⟨hescape, hcontrol, hquote, hslash⟩ := h
  rw [hescape]
  intro h
  cases h with
  | close => exact hquote rfl
  | plain hplain => rw [hcontrol] at hplain; cases hplain
  | short => exact hslash rfl
  | unicode => exact hslash rfl
  | pair => exact hslash rfl

/-- An escaped string reads back, and as itself, exactly when each of its characters does. -/
theorem chars_escape (hescape : ∀ c ∈ s, Kept escape c ∨ Raw escape c) :
    Chars (s.flatMap escape ++ '"' :: rest) s' rest' ↔
      (∀ c ∈ s, Kept escape c) ∧ s' = s ∧ rest' = rest := by
  induction s generalizing s' with
  | nil =>
    constructor
    · intro h
      cases h with
      | close => exact ⟨fun _ h => (by cases h), rfl, rfl⟩
      | plain hplain => exact absurd hplain (by decide)
    · rintro ⟨-, rfl, rfl⟩
      exact .close
  | cons c s ih =>
    rw [List.flatMap_cons, List.append_assoc]
    rcases hescape c List.mem_cons_self with hkept | hraw
    · rw [chars_kept hkept]
      constructor
      · rintro ⟨s', rfl, h⟩
        obtain ⟨hall, rfl, rfl⟩ :=
          (ih fun c hc => hescape c (List.mem_cons_of_mem _ hc)).mp h
        exact ⟨fun c hc => (List.mem_cons.mp hc).elim (fun h => h ▸ hkept) (hall c), rfl, rfl⟩
      · rintro ⟨hall, rfl, rfl⟩
        refine ⟨s, rfl, (ih fun c hc => hescape c (List.mem_cons_of_mem _ hc)).mpr ?_⟩
        exact ⟨fun c hc => hall c (List.mem_cons_of_mem _ hc), rfl, rfl⟩
    · constructor
      · exact fun h => absurd h (chars_raw hraw)
      · exact fun h => absurd (h.1 c List.mem_cons_self) hraw.not_kept

theorem ws_solid (hc : isWs c = false) : Ws (c :: text) rest ↔ rest = c :: text := by
  constructor
  · intro h
    cases h with
    | nil => rfl
    | cons hws => rw [hc] at hws; cases hws
  · rintro rfl
    exact .nil

theorem isDigit_numberChar (h : c.isDigit = true) : isNumberChar c = true := by
  simp [isNumberChar, h]

theorem Number.chars (h : Number text) : ∀ c ∈ text, isNumberChar c = true := by
  obtain ⟨minus, whole, fraction, exponent, hminus, hwhole, hfraction, hexponent, rfl⟩ := h
  have hdigits {digits} (hd : Digits digits) : ∀ c ∈ digits, isNumberChar c = true :=
    fun c hc => isDigit_numberChar (hd.2 c hc)
  intro c hc
  simp only [List.mem_append] at hc
  rcases hc with ((hc | hc) | hc) | hc
  · rcases hminus with rfl | rfl
    · cases hc
    · obtain rfl := List.mem_singleton.mp hc
      decide
  · rcases hwhole with rfl | ⟨hd, -⟩
    · obtain rfl := List.mem_singleton.mp hc
      decide
    · exact hdigits hd c hc
  · rcases hfraction with rfl | ⟨digits, hd, rfl⟩
    · cases hc
    · rcases List.mem_cons.mp hc with rfl | hc
      · decide
      · exact hdigits hd c hc
  · rcases hexponent with rfl | ⟨e, sign, digits, he, hsign, hd, rfl⟩
    · cases hc
    · rcases List.mem_cons.mp hc with rfl | hc
      · rcases he with rfl | rfl <;> decide
      · rcases List.mem_append.mp hc with hc | hc
        · rcases hsign with rfl | rfl | rfl
          · cases hc
          · obtain rfl := List.mem_singleton.mp hc
            decide
          · obtain rfl := List.mem_singleton.mp hc
            decide
        · exact hdigits hd c hc

theorem Number.head (h : Number text) :
    ∃ c cs, (text = c :: cs ∨ text = '-' :: c :: cs) ∧ c.isDigit = true := by
  obtain ⟨minus, whole, fraction, exponent, hminus, hwhole, -, -, rfl⟩ := h
  have hhead : ∃ c cs, whole = c :: cs ∧ c.isDigit = true := by
    rcases hwhole with rfl | ⟨⟨hne, hd⟩, -⟩
    · exact ⟨'0', [], rfl, by decide⟩
    · obtain ⟨c, cs, rfl⟩ := List.exists_cons_of_ne_nil hne
      exact ⟨c, cs, rfl, hd c List.mem_cons_self⟩
  obtain ⟨c, cs, rfl, hd⟩ := hhead
  rcases hminus with rfl | rfl
  · exact ⟨c, cs ++ fraction ++ exponent, .inl (by simp), hd⟩
  · exact ⟨c, cs ++ fraction ++ exponent, .inr (by simp), hd⟩

/-- Two numbers that end are one where their texts are. -/
theorem number_ends (ht : ∀ c ∈ text, isNumberChar c = true) (hr : Ends rest)
    (ht' : ∀ c ∈ text', isNumberChar c = true) (hr' : Ends rest')
    (h : text ++ rest = text' ++ rest') : text = text' ∧ rest = rest' := by
  have hstop {rest : List Char} (hr : Ends rest) : rest.takeWhile isNumberChar = [] := by
    cases rest with
    | nil => rfl
    | cons c rest => rw [List.takeWhile_cons, hr c rfl]; rfl
  have htext : text = text' := by
    have hwhile := congrArg (List.takeWhile isNumberChar) h
    rwa [List.takeWhile_append_of_pos ht, List.takeWhile_append_of_pos ht', hstop hr, hstop hr',
      List.append_nil, List.append_nil] at hwhile
  subst htext
  exact ⟨rfl, List.append_cancel_left h⟩

/-- What no value begins with. -/
def Unreadable (text : List Char) : Prop :=
  (∃ c cs, text = c :: cs ∧ isWs c = false ∧ c ≠ ']') ∧
    ∀ rest j rest', ¬Value (text ++ rest) j rest'

theorem Unreadable.not_number (h : Unreadable text) : ¬Number text := by
  intro hnumber
  have hvalue : Value (text ++ []) (.number text) [] :=
    .number hnumber fun _ h => (by cases h)
  exact h.2 _ _ _ hvalue

theorem digit_ne {c d : Char} (h : c.isDigit = true) (hd : d.isDigit = false) : c ≠ d := by
  rintro rfl
  rw [hd] at h
  cases h

theorem value_number (h : Number text) (hr : Ends rest) :
    Value (text ++ rest) j rest' ↔ j = .number text ∧ rest' = rest := by
  constructor
  · obtain ⟨d, ds, hhead, hd⟩ := h.head
    intro hvalue
    have hfront {c t} (hc : c.isDigit = false) (hm : c ≠ '-') (ht : c :: t = text ++ rest) :
        False := by
      rcases hhead with rfl | rfl
      · exact digit_ne hd hc (List.cons.inj ht).1.symm
      · exact hm (List.cons.inj ht).1
    generalize ht : text ++ rest = t at hvalue
    cases hvalue with
    | number h' hr' =>
      obtain ⟨rfl, rfl⟩ := number_ends h.chars hr h'.chars hr' ht
      exact ⟨rfl, rfl⟩
    | null => exact (hfront (by decide) (by decide) ht.symm).elim
    | yes => exact (hfront (by decide) (by decide) ht.symm).elim
    | no => exact (hfront (by decide) (by decide) ht.symm).elim
    | string => exact (hfront (by decide) (by decide) ht.symm).elim
    | noItems => exact (hfront (by decide) (by decide) ht.symm).elim
    | array => exact (hfront (by decide) (by decide) ht.symm).elim
    | noMembers => exact (hfront (by decide) (by decide) ht.symm).elim
    | object => exact (hfront (by decide) (by decide) ht.symm).elim
  · rintro ⟨rfl, rfl⟩
    exact .number h hr

theorem Value.front (h : Value text j rest) : text.head? ≠ some ']' := by
  cases h with
  | number h =>
    obtain ⟨d, ds, rfl | rfl, hd⟩ := h.head
    · exact fun h => digit_ne hd (by decide) (Option.some.inj h)
    · simp
  | _ => simp

def PlainName (name : String) : Prop := ∀ c ∈ name.toList, unescaped c = true

/-- The numbers of a value can be told apart from all that is none, and its names need no escape. -/
def Json.Sound (j : Json) : Prop :=
  j.All (fun text => Number text ∨ Unreadable text) (fun _ => True) PlainName

/-- The numbers of a value are numbers, and its strings read back. -/
def Json.Clean (escape : Char → List Char) (j : Json) : Prop :=
  j.All Number (fun s => ∀ c ∈ s, Kept escape c) (fun _ => True)

theorem allItems_iff : Json.AllItems number string name js ↔
    ∀ j ∈ js, Json.All number string name j := by
  induction js with
  | nil => exact ⟨fun _ _ h => (by cases h), fun _ => trivial⟩
  | cons j js ih => rw [Json.AllItems, ih, List.forall_mem_cons]

theorem allMembers_iff : Json.AllMembers number string name ms ↔
    ∀ m ∈ ms, name m.1 ∧ Json.All number string name m.2 := by
  induction ms with
  | nil => exact ⟨fun _ _ h => (by cases h), fun _ => trivial⟩
  | cons m ms ih => rw [Json.AllMembers, ih, List.forall_mem_cons, and_assoc]

theorem sound_array : (Json.array js).Sound ↔ ∀ j ∈ js, j.Sound := allItems_iff

theorem sound_object : (Json.object ms).Sound ↔ ∀ m ∈ ms, PlainName m.1 ∧ m.2.Sound :=
  allMembers_iff

theorem clean_array : (Json.array js).Clean escape ↔ ∀ j ∈ js, j.Clean escape := allItems_iff

theorem clean_object : (Json.object ms).Clean escape ↔ ∀ m ∈ ms, m.2.Clean escape :=
  allMembers_iff.trans (forall₂_congr fun _ _ => iff_of_eq (true_and _))

theorem chars_name (h : PlainName name) :
    Chars (name.toList ++ '"' :: rest) s rest' ↔ s = name.toList ∧ rest' = rest := by
  have hkept : ∀ c ∈ name.toList, Kept (fun c => [c]) c := fun c hc => .inl ⟨rfl, h c hc⟩
  have hchars : Chars (name.toList.flatMap (fun c => [c]) ++ '"' :: rest) s rest' ↔ _ :=
    chars_escape fun c hc => .inl (hkept c hc)
  rw [List.flatMap_singleton'] at hchars
  rw [hchars]
  exact ⟨fun h => h.2, fun h => ⟨hkept, h⟩⟩

theorem ends_cons (h : isNumberChar c = false) : Ends (c :: rest) := by
  rintro d ⟨⟩
  exact h

theorem render_front (escape : Char → List Char) (rest : List Char) (h : j.Sound) :
    ∃ c cs, render escape j rest = c :: cs ∧ isWs c = false ∧ c ≠ ']' := by
  cases j with
  | null => exact ⟨'n', _, rfl, by decide, by decide⟩
  | bool b =>
    cases b with
    | true => exact ⟨'t', _, rfl, by decide, by decide⟩
    | false => exact ⟨'f', _, rfl, by decide, by decide⟩
  | string s => exact ⟨'"', _, rfl, by decide, by decide⟩
  | array js => exact ⟨'[', _, rfl, by decide, by decide⟩
  | object ms => exact ⟨'{', _, rfl, by decide, by decide⟩
  | number text =>
    rcases (h : Number text ∨ Unreadable text) with hnumber | ⟨⟨c, cs, rfl, hws, hne⟩, -⟩
    · obtain ⟨d, ds, rfl | rfl, hd⟩ := hnumber.head
      · refine ⟨d, ds ++ rest, rfl, ?_, digit_ne hd (by decide)⟩
        have hspace := digit_ne (d := ' ') hd (by decide)
        have htab := digit_ne (d := '\t') hd (by decide)
        have hline := digit_ne (d := '\n') hd (by decide)
        have hreturn := digit_ne (d := '\r') hd (by decide)
        simp [isWs, hspace, htab, hline, hreturn]
      · exact ⟨'-', _, rfl, by decide, by decide⟩
    · exact ⟨c, cs ++ rest, rfl, hws, hne⟩

theorem ws_render (h : j.Sound) : Ws (render escape j rest) text ↔ text = render escape j rest := by
  obtain ⟨c, cs, hrender, hws, -⟩ := render_front escape rest h
  rw [hrender]
  exact ws_solid hws

theorem Number.front (h : Number text) (ht : text ++ rest = c :: cs) :
    c = '-' ∨ c.isDigit = true := by
  obtain ⟨d, ds, rfl | rfl, hd⟩ := h.head
  · cases ht
    exact .inr hd
  · cases ht
    exact .inl rfl

theorem number_not (hc : (c ≠ '-' && !c.isDigit) = true) (h : Number text)
    (ht : c :: cs = text ++ rest) : False := by
  rcases h.front ht.symm with rfl | hd
  · exact absurd hc (by decide)
  · simp [hd] at hc

theorem value_quote : Value ('"' :: text) j rest ↔ ∃ s, j = .string s ∧ Chars text s rest := by
  constructor
  · intro h
    generalize ht : '"' :: text = t at h
    cases h with
    | string hchars => cases ht; exact ⟨_, rfl, hchars⟩
    | number h => exact (number_not (by decide) h ht).elim
    | _ => cases ht
  · rintro ⟨s, rfl, hchars⟩
    exact .string hchars

theorem value_bracket : Value ('[' :: text) j rest ↔
    (j = .array [] ∧ Ws text (']' :: rest)) ∨ ∃ js, j = .array js ∧ Items text js rest := by
  constructor
  · intro h
    generalize ht : '[' :: text = t at h
    cases h with
    | noItems hws => cases ht; exact .inl ⟨rfl, hws⟩
    | array hitems => cases ht; exact .inr ⟨_, rfl, hitems⟩
    | number h => exact (number_not (by decide) h ht).elim
    | _ => cases ht
  · rintro (⟨rfl, hws⟩ | ⟨js, rfl, hitems⟩)
    · exact .noItems hws
    · exact .array hitems

theorem value_brace : Value ('{' :: text) j rest ↔
    (j = .object [] ∧ Ws text ('}' :: rest)) ∨ ∃ ms, j = .object ms ∧ Members text ms rest := by
  constructor
  · intro h
    generalize ht : '{' :: text = t at h
    cases h with
    | noMembers hws => cases ht; exact .inl ⟨rfl, hws⟩
    | object hmembers => cases ht; exact .inr ⟨_, rfl, hmembers⟩
    | number h => exact (number_not (by decide) h ht).elim
    | _ => cases ht
  · rintro (⟨rfl, hws⟩ | ⟨ms, rfl, hmembers⟩)
    · exact .noMembers hws
    · exact .object hmembers

theorem value_null : Value ('n' :: 'u' :: 'l' :: 'l' :: rest) j rest' ↔
    j = .null ∧ rest' = rest := by
  constructor
  · intro h
    generalize ht : 'n' :: 'u' :: 'l' :: 'l' :: rest = t at h
    cases h with
    | null => cases ht; exact ⟨rfl, rfl⟩
    | number h => exact (number_not (by decide) h ht).elim
    | _ => cases ht
  · rintro ⟨rfl, rfl⟩
    exact .null

theorem value_true : Value ('t' :: 'r' :: 'u' :: 'e' :: rest) j rest' ↔
    j = .bool true ∧ rest' = rest := by
  constructor
  · intro h
    generalize ht : 't' :: 'r' :: 'u' :: 'e' :: rest = t at h
    cases h with
    | yes => cases ht; exact ⟨rfl, rfl⟩
    | number h => exact (number_not (by decide) h ht).elim
    | _ => cases ht
  · rintro ⟨rfl, rfl⟩
    exact .yes

theorem value_false : Value ('f' :: 'a' :: 'l' :: 's' :: 'e' :: rest) j rest' ↔
    j = .bool false ∧ rest' = rest := by
  constructor
  · intro h
    generalize ht : 'f' :: 'a' :: 'l' :: 's' :: 'e' :: rest = t at h
    cases h with
    | no => cases ht; exact ⟨rfl, rfl⟩
    | number h => exact (number_not (by decide) h ht).elim
    | _ => cases ht
  · rintro ⟨rfl, rfl⟩
    exact .no

/-- A rendered value reads as itself and as nothing else when it is clean, and not at all when it is
not. -/
def ReadsBack (escape : Char → List Char) (j : Json) : Prop :=
  ∀ rest j' rest', Ends rest →
    (Value (render escape j rest) j' rest' ↔ j.Clean escape ∧ j' = j ∧ rest' = rest)

theorem items_one : Items text js rest ↔ ∃ t₁ j t₂, Ws text t₁ ∧ Value t₁ j t₂ ∧
    ((Ws t₂ (']' :: rest) ∧ js = [j]) ∨
      ∃ t₃ js', Ws t₂ (',' :: t₃) ∧ Items t₃ js' rest ∧ js = j :: js') := by
  constructor
  · intro h
    cases h with
    | last hws hvalue hclose => exact ⟨_, _, _, hws, hvalue, .inl ⟨hclose, rfl⟩⟩
    | more hws hvalue hcomma hitems =>
      exact ⟨_, _, _, hws, hvalue, .inr ⟨_, _, hcomma, hitems, rfl⟩⟩
  · rintro ⟨t₁, j, t₂, hws, hvalue, ⟨hclose, rfl⟩ | ⟨t₃, js', hcomma, hitems, rfl⟩⟩
    · exact .last hws hvalue hclose
    · exact .more hws hvalue hcomma hitems

theorem members_one : Members text ms rest ↔ ∃ t₁ name t₂ t₃ t₄ j t₅, Ws text ('"' :: t₁) ∧
    Chars t₁ name t₂ ∧ Ws t₂ (':' :: t₃) ∧ Ws t₃ t₄ ∧ Value t₄ j t₅ ∧
    ((Ws t₅ ('}' :: rest) ∧ ms = [(String.ofList name, j)]) ∨
      ∃ t₆ ms', Ws t₅ (',' :: t₆) ∧ Members t₆ ms' rest ∧ ms = (String.ofList name, j) :: ms') := by
  constructor
  · intro h
    cases h with
    | last hws hname hcolon hws' hvalue hclose =>
      exact ⟨_, _, _, _, _, _, _, hws, hname, hcolon, hws', hvalue, .inl ⟨hclose, rfl⟩⟩
    | more hws hname hcolon hws' hvalue hcomma hmembers =>
      exact ⟨_, _, _, _, _, _, _, hws, hname, hcolon, hws', hvalue,
        .inr ⟨_, _, hcomma, hmembers, rfl⟩⟩
  · rintro ⟨t₁, name, t₂, t₃, t₄, j, t₅, hws, hname, hcolon, hws', hvalue,
      ⟨hclose, rfl⟩ | ⟨t₆, ms', hcomma, hmembers, rfl⟩⟩
    · exact .last hws hname hcolon hws' hvalue hclose
    · exact .more hws hname hcolon hws' hvalue hcomma hmembers

theorem items_front (hj : j.Sound) (hrj : ReadsBack escape j) (hends : Ends text) :
    Items (render escape j text) js rest ↔ j.Clean escape ∧
      ((Ws text (']' :: rest) ∧ js = [j]) ∨
        ∃ t js', Ws text (',' :: t) ∧ Items t js' rest ∧ js = j :: js') := by
  rw [items_one]
  simp only [ws_render hj]
  constructor
  · rintro ⟨_, j', t₂, rfl, hvalue, hrest⟩
    obtain ⟨hclean, rfl, rfl⟩ := (hrj _ _ _ hends).mp hvalue
    exact ⟨hclean, hrest⟩
  · rintro ⟨hclean, hrest⟩
    exact ⟨_, j, text, rfl, (hrj _ _ _ hends).mpr ⟨hclean, rfl, rfl⟩, hrest⟩

theorem items_render {js : List Json} (hne : js ≠ []) (hsound : ∀ j ∈ js, j.Sound)
    (hread : ∀ j ∈ js, ReadsBack escape j) :
    ∀ rest js' rest', Items (renderItems escape js (']' :: rest)) js' rest' ↔
      (∀ j ∈ js, j.Clean escape) ∧ js' = js ∧ rest' = rest := by
  induction js with
  | nil => exact absurd rfl hne
  | cons j js ih =>
    intro rest js' rest'
    have hj := hsound j List.mem_cons_self
    have hrj := hread j List.mem_cons_self
    rw [List.forall_mem_cons]
    cases js with
    | nil =>
      rw [renderItems, items_front hj hrj (ends_cons (by decide))]
      simp only [ws_solid (c := ']') rfl, List.cons.injEq, Char.reduceEq, false_and, exists_false,
        or_false, true_and, List.not_mem_nil, false_implies, implies_true, and_true]
      exact and_congr_right fun _ => and_comm
    | cons k js =>
      have hjs := ih (List.cons_ne_nil k js) (fun j h => hsound j (List.mem_cons_of_mem _ h))
        fun j h => hread j (List.mem_cons_of_mem _ h)
      rw [renderItems, items_front hj hrj (ends_cons (by decide))]
      simp only [ws_solid (c := ',') rfl, List.cons.injEq, Char.reduceEq, false_and, false_or,
        true_and, exists_and_left, exists_eq_left, hjs]
      constructor
      · rintro ⟨hclean, js', ⟨hall, rfl, rfl⟩, rfl⟩
        exact ⟨⟨hclean, hall⟩, rfl, rfl⟩
      · rintro ⟨⟨hclean, hall⟩, rfl, rfl⟩
        exact ⟨hclean, _, ⟨hall, rfl, rfl⟩, rfl⟩

theorem members_front (hname : PlainName name) (hj : j.Sound) (hrj : ReadsBack escape j)
    (hends : Ends text) :
    Members ('"' :: (name.toList ++ '"' :: ':' :: render escape j text)) ms rest ↔
      j.Clean escape ∧ ((Ws text ('}' :: rest) ∧ ms = [(name, j)]) ∨
        ∃ t ms', Ws text (',' :: t) ∧ Members t ms' rest ∧ ms = (name, j) :: ms') := by
  rw [members_one]
  simp only [ws_solid (c := '"') rfl, List.cons.injEq, true_and]
  constructor
  · rintro ⟨_, name', _, _, _, j', t, rfl, hchars, hcolon, hws, hvalue, hrest⟩
    obtain ⟨rfl, rfl⟩ := (chars_name hname).mp hchars
    cases (ws_solid (by decide)).mp hcolon
    cases (ws_render hj).mp hws
    obtain ⟨hclean, rfl, rfl⟩ := (hrj _ _ _ hends).mp hvalue
    rw [String.ofList_toList] at hrest
    exact ⟨hclean, hrest⟩
  · rintro ⟨hclean, hrest⟩
    refine ⟨_, name.toList, _, _, _, j, text, rfl, (chars_name hname).mpr ⟨rfl, rfl⟩, .nil, .nil,
      (hrj _ _ _ hends).mpr ⟨hclean, rfl, rfl⟩, ?_⟩
    rw [String.ofList_toList]
    exact hrest

theorem members_render {ms : List (String × Json)} (hne : ms ≠ [])
    (hsound : ∀ m ∈ ms, PlainName m.1 ∧ m.2.Sound) (hread : ∀ m ∈ ms, ReadsBack escape m.2) :
    ∀ rest ms' rest', Members (renderMembers escape ms ('}' :: rest)) ms' rest' ↔
      (∀ m ∈ ms, m.2.Clean escape) ∧ ms' = ms ∧ rest' = rest := by
  induction ms with
  | nil => exact absurd rfl hne
  | cons m ms ih =>
    intro rest ms' rest'
    obtain ⟨name, j⟩ := m
    obtain ⟨hname, hj⟩ := hsound _ List.mem_cons_self
    have hrj := hread _ List.mem_cons_self
    rw [List.forall_mem_cons]
    cases ms with
    | nil =>
      rw [renderMembers, members_front hname hj hrj (ends_cons (by decide))]
      simp only [ws_solid (c := '}') rfl, List.cons.injEq, Char.reduceEq, false_and, exists_false,
        or_false, true_and, List.not_mem_nil, false_implies, implies_true, and_true]
      exact and_congr_right fun _ => and_comm
    | cons m ms =>
      have hms := ih (List.cons_ne_nil m ms) (fun m h => hsound m (List.mem_cons_of_mem _ h))
        fun m h => hread m (List.mem_cons_of_mem _ h)
      rw [renderMembers, members_front hname hj hrj (ends_cons (by decide))]
      simp only [ws_solid (c := ',') rfl, List.cons.injEq, Char.reduceEq, false_and, false_or,
        true_and, exists_and_left, exists_eq_left, hms]
      constructor
      · rintro ⟨hclean, ms', ⟨hall, rfl, rfl⟩, rfl⟩
        exact ⟨⟨hclean, hall⟩, rfl, rfl⟩
      · rintro ⟨⟨hclean, hall⟩, rfl, rfl⟩
        exact ⟨hclean, _, ⟨hall, rfl, rfl⟩, rfl⟩

theorem not_items_close : ¬Items (']' :: text) js rest := by
  rw [items_one]
  rintro ⟨_, j, t, hws, hvalue, -⟩
  cases (ws_solid (by decide)).mp hws
  exact hvalue.front rfl

theorem not_members_close : ¬Members ('}' :: text) ms rest := by
  rw [members_one]
  rintro ⟨_, _, _, _, _, _, _, hws, -⟩
  cases (ws_solid (by decide)).mp hws

theorem renderItems_front (hj : j.Sound) :
    ¬Ws (renderItems escape (j :: js) text) (']' :: rest) := by
  have hfront : ∃ text', renderItems escape (j :: js) text = render escape j text' := by
    cases js with
    | nil => exact ⟨text, rfl⟩
    | cons k js => exact ⟨_, rfl⟩
  obtain ⟨text', hfront⟩ := hfront
  rw [hfront, ws_render hj]
  intro h
  obtain ⟨c, cs, hrender, -, hne⟩ := render_front escape text' hj
  rw [hrender] at h
  exact hne (List.cons.inj h).1.symm

theorem renderMembers_front :
    ¬Ws (renderMembers escape ((name, j) :: ms) text) ('}' :: rest) := by
  cases ms with
  | nil =>
    rw [renderMembers, ws_solid rfl]
    exact fun h => (by cases h)
  | cons m ms =>
    rw [renderMembers, ws_solid rfl]
    exact fun h => (by cases h)

theorem readsBack_array (hsound : (Json.array js).Sound) (hread : ∀ j ∈ js, ReadsBack escape j) :
    ReadsBack escape (.array js) := by
  intro rest j' rest' _
  have hsound := sound_array.mp hsound
  rw [render, value_bracket, clean_array]
  cases js with
  | nil =>
    rw [renderItems, ws_solid rfl]
    constructor
    · rintro (⟨rfl, h⟩ | ⟨js, -, hitems⟩)
      · cases h
        exact ⟨fun _ h => (by cases h), rfl, rfl⟩
      · exact absurd hitems not_items_close
    · rintro ⟨-, rfl, rfl⟩
      exact .inl ⟨rfl, rfl⟩
  | cons j js =>
    have hitems := items_render (List.cons_ne_nil j js) hsound hread
    constructor
    · rintro (⟨-, hws⟩ | ⟨js', rfl, h⟩)
      · exact absurd hws (renderItems_front (hsound j List.mem_cons_self))
      · obtain ⟨hall, rfl, rfl⟩ := (hitems _ _ _).mp h
        exact ⟨hall, rfl, rfl⟩
    · rintro ⟨hall, rfl, rfl⟩
      exact .inr ⟨_, rfl, (hitems _ _ _).mpr ⟨hall, rfl, rfl⟩⟩

theorem readsBack_object (hsound : (Json.object ms).Sound)
    (hread : ∀ m ∈ ms, ReadsBack escape m.2) : ReadsBack escape (.object ms) := by
  intro rest j' rest' _
  have hsound := sound_object.mp hsound
  rw [render, value_brace, clean_object]
  cases ms with
  | nil =>
    rw [renderMembers, ws_solid rfl]
    constructor
    · rintro (⟨rfl, h⟩ | ⟨ms, -, hmembers⟩)
      · cases h
        exact ⟨fun _ h => (by cases h), rfl, rfl⟩
      · exact absurd hmembers not_members_close
    · rintro ⟨-, rfl, rfl⟩
      exact .inl ⟨rfl, rfl⟩
  | cons m ms =>
    have hmembers := members_render (List.cons_ne_nil m ms) hsound hread
    constructor
    · rintro (⟨-, hws⟩ | ⟨ms', rfl, h⟩)
      · exact absurd hws renderMembers_front
      · obtain ⟨hall, rfl, rfl⟩ := (hmembers _ _ _).mp h
        exact ⟨hall, rfl, rfl⟩
    · rintro ⟨hall, rfl, rfl⟩
      exact .inr ⟨_, rfl, (hmembers _ _ _).mpr ⟨hall, rfl, rfl⟩⟩

/-- Every value reads back when each character is kept or left raw. -/
theorem value_render (hescape : ∀ c, Kept escape c ∨ Raw escape c) :
    ∀ (j : Json), j.Sound → ReadsBack escape j
  | .null, _ => fun rest j' rest' _ => by
    rw [render, value_null]
    exact ⟨fun h => ⟨trivial, h⟩, fun h => h.2⟩
  | .bool true, _ => fun rest j' rest' _ => by
    rw [render, value_true]
    exact ⟨fun h => ⟨trivial, h⟩, fun h => h.2⟩
  | .bool false, _ => fun rest j' rest' _ => by
    rw [render, value_false]
    exact ⟨fun h => ⟨trivial, h⟩, fun h => h.2⟩
  | .number text, hsound => fun rest j' rest' hends => by
    rw [render]
    rcases (hsound : Number text ∨ Unreadable text) with hnumber | hno
    · rw [value_number hnumber hends]
      exact ⟨fun h => ⟨hnumber, h⟩, fun h => h.2⟩
    · refine ⟨fun h => absurd h (hno.2 _ _ _), fun h => ?_⟩
      exact absurd (Value.number h.1 hends) (hno.2 _ _ _)
  | .string s, _ => fun rest j' rest' _ => by
    rw [render, value_quote]
    simp only [chars_escape fun c _ => hescape c]
    constructor
    · rintro ⟨s', rfl, hall, rfl, rfl⟩
      exact ⟨hall, rfl, rfl⟩
    · rintro ⟨hall, rfl, rfl⟩
      exact ⟨s, rfl, hall, rfl, rfl⟩
  | .array js, hsound =>
    readsBack_array hsound fun j hj => value_render hescape j (sound_array.mp hsound j hj)
  | .object ms, hsound =>
    readsBack_object hsound fun m hm => value_render hescape m.2 (sound_object.mp hsound m hm).2
termination_by j => sizeOf j
decreasing_by
  · have := List.sizeOf_lt_of_mem hj
    simp only [Json.array.sizeOf_spec]
    omega
  · have := List.sizeOf_lt_of_mem hm
    obtain ⟨name, j⟩ := m
    simp only [Prod.mk.sizeOf_spec] at this
    simp only [Json.object.sizeOf_spec]
    omega

theorem renderMembers_append (hne : ms ≠ []) : renderMembers escape (ms ++ m :: ms') rest =
    renderMembers escape ms (',' :: renderMembers escape (m :: ms') rest) := by
  induction ms with
  | nil => exact absurd rfl hne
  | cons first ms ih =>
    obtain ⟨name, j⟩ := first
    cases ms with
    | nil => rw [List.cons_append, List.nil_append, renderMembers, renderMembers]
    | cons second ms =>
      have hrest := ih (List.cons_ne_nil second ms)
      rw [List.cons_append] at hrest
      rw [List.cons_append, List.cons_append, renderMembers, renderMembers, hrest]

/-- The value of the only member of a name. -/
def Json.member (name : String) : Json → Option Json
  | .object ms =>
    match ms.filter fun m => m.1 = name with
    | [m] => some m.2
    | _ => none
  | _ => none

/-- What is found under one name after the other. -/
def Json.path : List String → Json → Option Json
  | [], j => some j
  | name :: names, j => (j.member name).bind (Json.path names)

/-- A rendered value is a text of the grammar exactly when it is clean, and then only for
itself. -/
theorem document_render (hescape : ∀ c, Kept escape c ∨ Raw escape c) (hsound : j.Sound) :
    Document (render escape j []) j' ↔ j.Clean escape ∧ j' = j := by
  have hread := value_render hescape j hsound
  have hends : Ends [] := fun _ h => (by cases h)
  constructor
  · rintro ⟨t₁, t₂, hws, hvalue, -⟩
    cases (ws_render hsound).mp hws
    obtain ⟨hclean, rfl, -⟩ := (hread _ _ _ hends).mp hvalue
    exact ⟨hclean, rfl⟩
  · rintro ⟨hclean, rfl⟩
    exact ⟨_, [], .nil, (hread _ _ _ hends).mpr ⟨hclean, rfl, rfl⟩, .nil⟩

end JsonText
