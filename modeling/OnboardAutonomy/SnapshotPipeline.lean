import OnboardAutonomy.Chunks
import OnboardAutonomy.LogStream
import OnboardAutonomy.SnapshotLines

namespace OnboardAutonomy
open Chunks JsonText
set_option autoImplicit true

/-- What the loop of `main` writes for its snapshots: each with `std::endl` behind it. -/
def jsonOutput (snapshots : List Serialised.AppSnapshot) : List Char :=
  snapshots.flatMap fun s => s.toJson.toList ++ ['\n']

/-- A line with its line feed. -/
def ended (text : List Char) : Line where
  text := String.ofList (text ++ ['\n'])
  nonempty := by
    intro h
    have hlist := congrArg String.toList h
    rw [String.toList_ofList] at hlist
    exact List.append_ne_nil_of_right_ne_nil text (List.cons_ne_nil _ []) hlist

/-- What stands behind the last line feed, if anything does. -/
def unended (text : List Char) : Option Line :=
  if h : String.ofList text = "" then none else some ⟨String.ofList text, h⟩

end OnboardAutonomy
