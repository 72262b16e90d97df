/-!
# Cutting a text at a separator

A text with `n` separators has `n + 1` pieces, and joining the pieces with the separator gives the
text back.
-/

namespace FragmentAssembly
namespace Text

/-- Put a character in front of the first piece. -/
def extendFirst (character : Char) : List (List Char) → List (List Char)
  | [] => [[character]]
  | piece :: others => (character :: piece) :: others

/-- The pieces of a text between its separators; an empty text is one empty piece. -/
def pieces (separator : Char) : List Char → List (List Char)
  | [] => [[]]
  | character :: rest =>
      if character = separator then
        [] :: pieces separator rest
      else
        extendFirst character (pieces separator rest)

theorem extendFirst_ne_nil (character : Char) (parts : List (List Char)) :
    extendFirst character parts ≠ [] := by
  cases parts <;> simp [extendFirst]

theorem pieces_ne_nil (separator : Char) (text : List Char) : pieces separator text ≠ [] := by
  cases text with
  | nil => simp [pieces]
  | cons character rest =>
      simp only [pieces]
      split
      · simp
      · exact extendFirst_ne_nil character _

/-- The part before the first separator and the part after it, if there is a separator. -/
def cutAtFirst (separator : Char) : List Char → Option (List Char × List Char)
  | [] => none
  | character :: rest =>
      if character = separator then
        some ([], rest)
      else
        (cutAtFirst separator rest).map fun (before, after) => (character :: before, after)

end Text
end FragmentAssembly
