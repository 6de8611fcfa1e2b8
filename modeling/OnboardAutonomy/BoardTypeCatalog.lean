import OnboardAutonomy.Chunks
import OnboardAutonomy.Trimming
import OnboardAutonomy.CommandLine
import Mathlib.Algebra.BigOperators.Group.Finset.Piecewise
import Mathlib.Data.List.AList

namespace OnboardAutonomy
open Chunks Trimming
set_option autoImplicit true

def isBlank (c : Char) : Bool := c = ' ' || c = '\t' || c = '\r' || c = '\n'

/-- The blanks at which a line is split. -/
def isSeparator (c : Char) : Bool := c = ' ' || c = '\t'

/-- A name without a prefix and quotes, and whether it had the prefix. -/
def normalizedName (sourceName : List Char) : List Char × Bool :=
  let trimmed := trim isBlank sourceName
  let isReserved := "Reserved".toList.isPrefixOf trimmed
  let bare := if isReserved then trim isBlank (trimmed.drop "Reserved".toList.length) else trimmed
  let unquoted :=
    if 2 ≤ bare.length ∧ bare.head? = some '"' ∧ bare.getLast? = some '"' then
      (bare.drop 1).dropLast
    else bare
  (trim isBlank unquoted, isReserved)

structure ParsedLine where
  boardType : UInt16
  name : String
  isReserved : Bool

/-- A line without a comment and the blanks around it. -/
def lineContent (line : List Char) : List Char := trim isBlank (line.takeWhile (· ≠ '#'))

def parseLine (line : List Char) (lineNumber : Nat) : Except String (Option ParsedLine) :=
  let content := lineContent line
  let refuse (what : String) : Except String (Option ParsedLine) :=
    .error ("ArduPilot board table line " ++ toString lineNumber ++ what)
  if content = [] then .ok none
  else
    match splitLast isSeparator content with
    | none => refuse " has no numeric board type"
    | some (nameText, idText) =>
      match parseUnsigned 32 (String.ofList (trim isBlank idText)) with
      | none => refuse " has an invalid board type"
      | some parsedId =>
        if 65535 < parsedId then refuse " has an invalid board type"
        else
          let (name, isReserved) := normalizedName (trim isBlank nameText)
          if name = [] then refuse " has an empty board name"
          else .ok (some {
            boardType := .ofNat parsedId
            name := String.ofList name
            isReserved := isReserved })

structure BoardTypeMatch where
  preferredName : String
  aliases : List String

structure BoardTypeEntry where
  preferredName : String := ""
  aliases : List String := []
  preferredIsReserved : Bool := false

/-- An alias is added once; the first name is preferred, but a reserved one over one that is not. -/
def BoardTypeEntry.add (entry : BoardTypeEntry) (name : String) (isReserved : Bool) :
    BoardTypeEntry :=
  let preferred :=
    entry.preferredName = "" ∨ (isReserved = true ∧ entry.preferredIsReserved = false)
  { preferredName := if preferred then name else entry.preferredName
    aliases := if name ∈ entry.aliases then entry.aliases else entry.aliases ++ [name]
    preferredIsReserved := if preferred then isReserved else entry.preferredIsReserved }

structure BoardTypeCatalog where
  entries : AList (fun _ : UInt16 => BoardTypeEntry) := ∅
  aliasCount : Nat := 0

namespace BoardTypeCatalog

/-- The entry of a board type, a new one if there is none. -/
def entry (c : BoardTypeCatalog) (boardType : UInt16) : BoardTypeEntry :=
  (c.entries.lookup boardType).getD {}

def add (c : BoardTypeCatalog) (parsed : ParsedLine) : BoardTypeCatalog where
  entries := c.entries.insert parsed.boardType
    ((c.entry parsed.boardType).add parsed.name parsed.isReserved)
  aliasCount :=
    if parsed.name ∈ (c.entry parsed.boardType).aliases then c.aliasCount else c.aliasCount + 1

def resolve (c : BoardTypeCatalog) (boardType : UInt16) : Option BoardTypeMatch :=
  (c.entries.lookup boardType).map fun found => ⟨found.preferredName, found.aliases⟩

def boardTypeCount (c : BoardTypeCatalog) : Nat := c.entries.keys.length

def addLines (c : BoardTypeCatalog) (lineNumber : Nat) :
    List (List Char) → Except String BoardTypeCatalog
  | [] => .ok c
  | line :: lines =>
    match parseLine line (lineNumber + 1) with
    | .error what => .error what
    | .ok none => c.addLines (lineNumber + 1) lines
    | .ok (some parsed) => (c.add parsed).addLines (lineNumber + 1) lines

/-- The lines of a stream are its pieces between newlines. -/
def fromStream (input : List Char) : Except String BoardTypeCatalog :=
  addLines {} 0 (pieces '\n' input)

end BoardTypeCatalog

example : ((BoardTypeCatalog.fromStream
    "A 9\nB 9 # note\nReserved \"C\" 9\n".toList).toOption.bind (·.resolve 9)).map
      (fun found => (found.preferredName, found.aliases)) = some ("C", ["A", "B", "C"]) := by
  decide +kernel

end OnboardAutonomy
