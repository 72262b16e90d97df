import FragmentAssembly.Json.Basic

/-!
# Compact JSON text

A value is written without white space. Strings escape the quote, the backslash and the controls, and
write every other character as it is.
-/

namespace FragmentAssembly
namespace Json

/-- The hexadecimal digit of a number below sixteen. -/
def hexDigit (value : Nat) : Char :=
  if value < 10 then Char.ofNat ('0'.toNat + value) else Char.ofNat ('a'.toNat + (value - 10))

/-- An escape that names a code unit by four hexadecimal digits. -/
def writeUnit (code : Nat) : List Char :=
  ['\\', 'u', hexDigit (code / 4096 % 16), hexDigit (code / 256 % 16), hexDigit (code / 16 % 16),
    hexDigit (code % 16)]

/-- One character inside a string. -/
def writeCharacter (character : Char) : List Char :=
  match character with
  | '"' => ['\\', '"']
  | '\\' => ['\\', '\\']
  | '\x08' => ['\\', 'b']
  | '\x0c' => ['\\', 'f']
  | '\n' => ['\\', 'n']
  | '\r' => ['\\', 'r']
  | '\t' => ['\\', 't']
  | character => if character.toNat < 0x20 then writeUnit character.toNat else [character]

/-- One element of a string's content. -/
def writeElement : Element → List Char
  | .character value => writeCharacter value
  | .surrogate code => writeUnit code

/-- A string between its quotes. -/
def writeContent (content : Content) : List Char :=
  '"' :: content.flatMap writeElement ++ ['"']

mutual

/-- The compact text of a value. -/
def write : Json → List Char
  | .null => ['n', 'u', 'l', 'l']
  | .boolean true => ['t', 'r', 'u', 'e']
  | .boolean false => ['f', 'a', 'l', 's', 'e']
  | .number literal => literal
  | .string content => writeContent content
  | .array items => '[' :: writeItems items ++ [']']
  | .object members => '\x7b' :: writeMembers members ++ ['\x7d']

/-- The items of an array, with commas between them. -/
def writeItems : List Json → List Char
  | [] => []
  | [item] => write item
  | item :: other :: others => write item ++ ',' :: writeItems (other :: others)

/-- The members of an object, with commas between them. -/
def writeMembers : List (Content × Json) → List Char
  | [] => []
  | [(key, value)] => writeContent key ++ ':' :: write value
  | (key, value) :: other :: others =>
      writeContent key ++ ':' :: write value ++ ',' :: writeMembers (other :: others)

end

/-- The compact text of a value, as a string. -/
def compact (value : Json) : String :=
  String.ofList value.write

end Json
end FragmentAssembly
