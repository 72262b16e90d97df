import FragmentAssembly.Text.Printable

/-!
# Quoted text for diagnostics

A text is shown between double quotes. Quotes and backslashes take a backslash, four controls have
letters of their own, and all else that is not printable is written by its code point.
-/

namespace FragmentAssembly
namespace Text

/-- The quoted form of one character. -/
def quoteCharacter (character : Char) : List Char :=
  match character with
  | '"' => ['\\', '"']
  | '\\' => ['\\', '\\']
  | '\x00' => ['\\', '0']
  | '\t' => ['\\', 't']
  | '\n' => ['\\', 'n']
  | '\r' => ['\\', 'r']
  | character =>
      if isPrintable character then
        [character]
      else
        ['\\', 'u', '\x7b'] ++ Nat.toDigits 16 character.toNat ++ ['\x7d']

/-- A text between double quotes. -/
def quoted (text : String) : String :=
  String.ofList (['"'] ++ text.toList.flatMap quoteCharacter ++ ['"'])

/-- An optional text: `None`, or the quoted text in parentheses. -/
def quotedOption : Option String → String
  | none => "None"
  | some text => "Some(" ++ quoted text ++ ")"

/-- A list of texts in brackets. -/
def quotedList (texts : List String) : String :=
  "[" ++ ", ".intercalate (texts.map quoted) ++ "]"

end Text
end FragmentAssembly
