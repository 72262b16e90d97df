/-!
# JSON values

Values keep all that a JSON text says: the literal of a number, the order of an object's members with
repetitions, and escapes in strings that name half of a surrogate pair. Whether such a thing can be
used is decided by the reader of a value, not by the reader of the text.
-/

namespace FragmentAssembly
namespace Json

/-- One element of the content of a JSON string. -/
inductive Element where
  /-- A Unicode character. -/
  | character (value : Char)
  /-- A code unit of a surrogate pair, written by an escape and without its partner. -/
  | surrogate (code : Nat)
  deriving DecidableEq

/-- The content of a JSON string. -/
abbrev Content := List Element

/-- The content that spells a text. -/
def Content.ofString (text : String) : Content :=
  text.toList.map .character

/-- The character that an element stands for. -/
def Element.character? : Element → Option Char
  | .character value => some value
  | .surrogate _ => none

/-- The text that a content spells; there is none if a surrogate lacks its partner. -/
def Content.text? (content : Content) : Option String :=
  (content.mapM Element.character?).map String.ofList

end Json

/-- A JSON value. -/
inductive Json where
  /-- The value `null`. -/
  | null
  /-- A truth value. -/
  | boolean (value : Bool)
  /-- A number, by its literal. -/
  | number (literal : List Char)
  /-- A string. -/
  | string (content : Json.Content)
  /-- An array. -/
  | array (items : List Json)
  /-- An object, with its members in the order written. -/
  | object (members : List (Json.Content × Json))

namespace Json

/-- A text as a JSON string. -/
def text (value : String) : Json :=
  .string (Content.ofString value)

/-- A number without sign, fraction and exponent. -/
def natural (value : Nat) : Json :=
  .number (Nat.toDigits 10 value)

/-- A list of texts as an array. -/
def texts (values : List String) : Json :=
  .array (values.map text)

/-- An optional text; `null` if there is none. -/
def optionalText : Option String → Json
  | none => .null
  | some value => text value

/-- An object whose keys are plain texts. -/
def record (members : List (String × Json)) : Json :=
  .object (members.map fun (key, value) => (Content.ofString key, value))

/-- The text of a string value. -/
def text? : Json → Option String
  | .string content => content.text?
  | _ => none

/-- The value of a truth value. -/
def boolean? : Json → Option Bool
  | .boolean value => some value
  | _ => none

/-- The items of an array, each read by `item?`. -/
def list? {α : Type} (item? : Json → Option α) : Json → Option (List α)
  | .array items => items.mapM item?
  | _ => none

/-- The natural number that a literal without sign, fraction and exponent denotes. -/
def natural? : Json → Option Nat
  | .number literal =>
      if literal.all Char.isDigit then
        some (literal.foldl (fun value digit => 10 * value + (digit.toNat - '0'.toNat)) 0)
      else
        none
  | _ => none

end Json
end FragmentAssembly
