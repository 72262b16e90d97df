import FragmentAssembly.Text.LetterCase
import FragmentAssembly.Text.Numeric
import FragmentAssembly.Text.Pieces

/-!
# Dotted names

Contracts, interfaces and implementations have dotted names such as `com.acme.users.Search`. The last
segment is the simple name, the rest is the package.
-/

namespace FragmentAssembly
namespace Name

/-- Whether a character may start an identifier. -/
def startsIdentifier (character : Char) : Bool :=
  Text.isAlphabetic character || character = '_' || character = '$'

/-- Whether a character may stand inside an identifier. -/
def continuesIdentifier (character : Char) : Bool :=
  Text.isAlphanumeric character || character = '_' || character = '$'

/-- Whether a text is an identifier. -/
def isIdentifier : List Char → Bool
  | [] => false
  | first :: rest => startsIdentifier first && rest.all continuesIdentifier

/-- Whether a text is a sequence of identifiers with dots between them. -/
def isQualified (text : List Char) : Bool :=
  (Text.pieces '.' text).all isIdentifier

/-- What stands after the last dot, or the whole text without one. -/
def lastSegment (text : List Char) : List Char :=
  (text.reverse.takeWhile (· ≠ '.')).reverse

/-- What stands before the last dot; empty without one. -/
def beforeLastSegment (text : List Char) : List Char :=
  ((text.reverse.dropWhile (· ≠ '.')).drop 1).reverse

/-- The simple name of a dotted name. -/
def simple (name : String) : String :=
  String.ofList (lastSegment name.toList)

/-- The package of a dotted name. -/
def package (name : String) : String :=
  String.ofList (beforeLastSegment name.toList)

/-- Whether a name starts with two upper-case characters, as an acronym does. -/
def startsWithAcronym : List Char → Bool
  | first :: second :: _ => Text.isUpperCase first && Text.isUpperCase second
  | _ => false

/-- A text with its first character in lower case; an acronym at the start is left as it is. -/
def decapitalize (text : List Char) : List Char :=
  match text with
  | [] => []
  | first :: rest => if startsWithAcronym text then text else Text.lowerCase first ++ rest

/-- The conventional identity of a simple name. -/
def lowerCamel (simpleName : String) : String :=
  String.ofList (decapitalize simpleName.toList)

end Name
end FragmentAssembly
