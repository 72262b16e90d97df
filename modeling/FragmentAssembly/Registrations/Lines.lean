import FragmentAssembly.Text.Pieces
import FragmentAssembly.Text.WhiteSpace

/-!
# Logical lines

A registration text is read line by line. Blank lines and comments are skipped. A line that ends in a
backslash goes on in the next physical line, whatever that line looks like.
-/

namespace FragmentAssembly
namespace Registrations

/-- A line put together from physical lines. -/
structure LogicalLine where
  /-- Number of its first physical line, counted from one. -/
  number : Nat
  /-- Its content, without the backslashes that continue it. -/
  content : List Char
  deriving DecidableEq

/-- Whether a trimmed physical line opens no logical line. -/
def isSkipped : List Char → Bool
  | [] => true
  | first :: _ => first = '#' || first = '!'

/-- The part of a physical line before a backslash at its end, if it has one. -/
def continued? (line : List Char) : Option (List Char) :=
  if line.getLast? = some '\\' then some line.dropLast else none

/-- Append a trimmed physical line to the line that is open, and return the line that stays open and
the one that is complete. -/
def extend (start : LogicalLine) (line : List Char) : Option LogicalLine × Option LogicalLine :=
  match continued? line with
  | some content => (some { start with content := start.content ++ content }, none)
  | none => (none, some { start with content := start.content ++ line })

/-- The logical lines of trimmed physical lines. `opened` is the line that is still open, and `number`
is the number of the next physical line. -/
def group (opened : Option LogicalLine) (number : Nat) : List (List Char) → List LogicalLine
  | [] => opened.toList
  | line :: rest =>
      if opened.isNone && isSkipped line then
        group none (number + 1) rest
      else
        let (stillOpen, complete) := extend (opened.getD ⟨number, []⟩) line
        complete.toList ++ group stillOpen (number + 1) rest

/-- The logical lines of a text. -/
def logicalLines (text : List Char) : List LogicalLine :=
  group none 1 ((Text.pieces '\n' text).map Text.trim)

end Registrations
end FragmentAssembly
