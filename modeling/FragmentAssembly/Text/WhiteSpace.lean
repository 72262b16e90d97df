import FragmentAssembly.Text.CodePoints

/-!
# White space

The characters with the Unicode property White_Space, and the trimming of a text at both ends. Zero
width characters and the byte order mark are not white space.
-/

namespace FragmentAssembly
namespace Text

/-- Intervals of code points that are white space, in increasing order. -/
def whiteSpaceIntervals : List (Nat × Nat) :=
  [(0x9, 0xD), (0x20, 0x20), (0x85, 0x85), (0xA0, 0xA0), (0x1680, 0x1680), (0x2000, 0x200A),
   (0x2028, 0x2029), (0x202F, 0x202F), (0x205F, 0x205F), (0x3000, 0x3000)]

/-- Whether a character is white space. -/
def isWhiteSpace (character : Char) : Bool :=
  inIntervals whiteSpaceIntervals character

/-- A text without the white space at its start. -/
def trimStart (text : List Char) : List Char :=
  text.dropWhile isWhiteSpace

/-- A text without the white space at its end. -/
def trimEnd (text : List Char) : List Char :=
  (text.reverse.dropWhile isWhiteSpace).reverse

/-- A text without the white space at its ends. -/
def trim (text : List Char) : List Char :=
  trimEnd (trimStart text)

end Text
end FragmentAssembly
