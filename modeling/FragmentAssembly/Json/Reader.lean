import FragmentAssembly.Json.Basic

/-!
# Reading JSON text

The reader accepts exactly the texts of RFC 8259: four blank characters, no byte order mark, no
comment, no trailing comma, nothing after the value. Each reading step returns what it read and what
remains.
-/

namespace FragmentAssembly
namespace Json

/-- The characters that may stand between the tokens. -/
def isBlank (character : Char) : Bool :=
  character = ' ' || character = '\t' || character = '\n' || character = '\r'

/-- A text without the blanks at its start. -/
def skipBlanks (text : List Char) : List Char :=
  text.dropWhile isBlank

/-! ## Numbers -/

/-- The digits at the start of a text; there must be one. -/
def readDigits (text : List Char) : Option (List Char × List Char) :=
  match text.takeWhile Char.isDigit with
  | [] => none
  | digits => some (digits, text.dropWhile Char.isDigit)

/-- An integer part: one zero, or digits that do not start with a zero. -/
def readInteger : List Char → Option (List Char × List Char)
  | '0' :: rest => if (rest.takeWhile Char.isDigit).isEmpty then some (['0'], rest) else none
  | text => readDigits text

/-- An optional fraction. -/
def readFraction : List Char → Option (List Char × List Char)
  | '.' :: rest => (readDigits rest).map fun (digits, rest) => ('.' :: digits, rest)
  | text => some ([], text)

/-- The sign of an exponent, if there is one. -/
def readSign : List Char → List Char × List Char
  | '+' :: rest => (['+'], rest)
  | '-' :: rest => (['-'], rest)
  | text => ([], text)

/-- An optional exponent. -/
def readExponent : List Char → Option (List Char × List Char)
  | [] => some ([], [])
  | mark :: rest =>
      if mark = 'e' || mark = 'E' then
        let (sign, unsigned) := readSign rest
        (readDigits unsigned).map fun (digits, rest) => (mark :: sign ++ digits, rest)
      else
        some ([], mark :: rest)

/-- A number, by its literal. -/
def readNumber (text : List Char) : Option (List Char × List Char) := do
  let (sign, text) := match text with
    | '-' :: rest => (['-'], rest)
    | text => ([], text)
  let (integer, text) ← readInteger text
  let (fraction, text) ← readFraction text
  let (exponent, text) ← readExponent text
  return (sign ++ integer ++ fraction ++ exponent, text)

/-! ## Strings -/

/-- The value of a hexadecimal digit of either case. -/
def hexValue? (digit : Char) : Option Nat :=
  if '0' ≤ digit ∧ digit ≤ '9' then some (digit.toNat - '0'.toNat)
  else if 'a' ≤ digit ∧ digit ≤ 'f' then some (digit.toNat - 'a'.toNat + 10)
  else if 'A' ≤ digit ∧ digit ≤ 'F' then some (digit.toNat - 'A'.toNat + 10)
  else none

/-- The code unit that four hexadecimal digits name. -/
def codeUnit? (first second third fourth : Char) : Option Nat := do
  return 4096 * (← hexValue? first) + 256 * (← hexValue? second) + 16 * (← hexValue? third) +
    (← hexValue? fourth)

/-- The element that a code unit stands for by itself. -/
def Element.ofUnit (code : Nat) : Element :=
  if 0xD800 ≤ code ∧ code ≤ 0xDFFF then .surrogate code else .character (Char.ofNat code)

/-- The character that a one-letter escape names. -/
def escaped? : Char → Option Char
  | '"' => some '"'
  | '\\' => some '\\'
  | '/' => some '/'
  | 'b' => some '\x08'
  | 'f' => some '\x0c'
  | 'n' => some '\n'
  | 'r' => some '\r'
  | 't' => some '\t'
  | _ => none

/-- Put an element in front of what was read. -/
def consElement (element : Element) (read : Content × List Char) : Content × List Char :=
  (element :: read.1, read.2)

/-- The elements of a string up to its closing quote. Each escape is an element of its own. -/
def readElements : List Char → Option (Content × List Char)
  | [] => none
  | '"' :: rest => some ([], rest)
  | '\\' :: 'u' :: first :: second :: third :: fourth :: rest =>
      match codeUnit? first second third fourth with
      | some code => (readElements rest).map (consElement (.ofUnit code))
      | none => none
  | '\\' :: letter :: rest =>
      match escaped? letter with
      | some character => (readElements rest).map (consElement (.character character))
      | none => none
  | character :: rest =>
      if character.toNat < 0x20 || character = '\\' then
        none
      else
        (readElements rest).map (consElement (.character character))

/-- Join each high surrogate with a low one right after it into the character they encode. -/
def joinSurrogates : Content → Content
  | .surrogate high :: .surrogate low :: rest =>
      if high < 0xDC00 ∧ 0xDC00 ≤ low then
        .character (Char.ofNat (0x10000 + 0x400 * (high - 0xD800) + (low - 0xDC00))) ::
          joinSurrogates rest
      else
        .surrogate high :: joinSurrogates (.surrogate low :: rest)
  | element :: rest => element :: joinSurrogates rest
  | [] => []

/-- The content of a string whose opening quote was read. -/
def readContent (text : List Char) : Option (Content × List Char) :=
  (readElements text).map fun (elements, rest) => (joinSurrogates elements, rest)

/-! ## Values -/

/-- A key with the quotes around it and the colon after it. -/
def readKey (text : List Char) : Option (Content × List Char) :=
  match skipBlanks text with
  | '"' :: rest => do
      let (key, rest) ← readContent rest
      match skipBlanks rest with
      | ':' :: rest => some (key, rest)
      | _ => none
  | _ => none

mutual

/-- A value at the start of a text. The first argument bounds the depth of the reading. -/
def readValue : Nat → List Char → Option (Json × List Char)
  | 0, _ => none
  | fuel + 1, text =>
      match skipBlanks text with
      | 'n' :: 'u' :: 'l' :: 'l' :: rest => some (.null, rest)
      | 't' :: 'r' :: 'u' :: 'e' :: rest => some (.boolean true, rest)
      | 'f' :: 'a' :: 'l' :: 's' :: 'e' :: rest => some (.boolean false, rest)
      | '"' :: rest => (readContent rest).map fun (content, rest) => (.string content, rest)
      | '[' :: rest =>
          match skipBlanks rest with
          | ']' :: rest => some (.array [], rest)
          | rest => (readItems fuel rest).map fun (items, rest) => (.array items, rest)
      | '\x7b' :: rest =>
          match skipBlanks rest with
          | '\x7d' :: rest => some (.object [], rest)
          | rest => (readMembers fuel rest).map fun (members, rest) => (.object members, rest)
      | rest => (readNumber rest).map fun (literal, rest) => (.number literal, rest)

/-- The items of an array up to its closing bracket; there is at least one. -/
def readItems : Nat → List Char → Option (List Json × List Char)
  | 0, _ => none
  | fuel + 1, text =>
      match readValue fuel text with
      | none => none
      | some (item, rest) =>
          match skipBlanks rest with
          | ']' :: rest => some ([item], rest)
          | ',' :: rest => (readItems fuel rest).map fun (items, rest) => (item :: items, rest)
          | _ => none

/-- The members of an object up to its closing brace; there is at least one. -/
def readMembers : Nat → List Char → Option (List (Content × Json) × List Char)
  | 0, _ => none
  | fuel + 1, text =>
      match readKey text with
      | none => none
      | some (key, rest) =>
          match readValue fuel rest with
          | none => none
          | some (value, rest) =>
              match skipBlanks rest with
              | '\x7d' :: rest => some ([(key, value)], rest)
              | ',' :: rest =>
                  (readMembers fuel rest).map fun (members, rest) => ((key, value) :: members, rest)
              | _ => none

end

/-- The value that a whole text denotes. Every reading step but those of a container's first item
consumes a character, so twice the length of the text bounds the depth. -/
def readText (text : List Char) : Option Json :=
  match readValue (2 * text.length + 2) text with
  | some (value, rest) => if (skipBlanks rest).isEmpty then some value else none
  | none => none

/-- The value that a string denotes. -/
def read? (text : String) : Option Json :=
  readText text.toList

end Json
end FragmentAssembly
