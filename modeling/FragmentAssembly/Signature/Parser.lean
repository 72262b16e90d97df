import FragmentAssembly.Name
import FragmentAssembly.Signature.Basic
import FragmentAssembly.Text.WhiteSpace

/-!
# Reading method signatures

A written signature is an identifier and a list of parameter types in parentheses. A comma inside angle
brackets belongs to a type; any other comma ends one. White space around the parts does not count.
-/

namespace FragmentAssembly
namespace Signature

/-- Why a text is not a signature. -/
inductive Malformation where
  /-- No opening parenthesis. -/
  | noOpening (text : String)
  /-- Something other than a closing parenthesis at the end. -/
  | noClosing (text : String)
  /-- A method name that is not an identifier. -/
  | invalidName (name : String)
  /-- An angle bracket that closes nothing. -/
  | unmatchedClosing (text : String)
  /-- An angle bracket that is not closed. -/
  | unmatchedOpening (text : String)
  /-- A parameter without a type. -/
  | emptyParameter (text : String)
  deriving DecidableEq

/-- What is said about a malformed signature. -/
def Malformation.message : Malformation → String
  | .noOpening text => "Method signature '" ++ text ++ "' lacks '('"
  | .noClosing text => "Method signature '" ++ text ++ "' must end with ')'"
  | .invalidName name => "Invalid method name '" ++ name ++ "'"
  | .unmatchedClosing text => "Unbalanced '>' in '" ++ text ++ "'"
  | .unmatchedOpening text => "Unbalanced '<' in '" ++ text ++ "'"
  | .emptyParameter text => "Empty parameter type in '" ++ text ++ "'"

/-- Why a parameter list cannot be cut into types. -/
inductive Imbalance where
  /-- More closing than opening angle brackets up to some point. -/
  | closing
  /-- More opening than closing angle brackets in all. -/
  | opening
  deriving DecidableEq

/-- The malformation that an imbalance in a text amounts to. -/
def Imbalance.malformation (text : String) : Imbalance → Malformation
  | .closing => .unmatchedClosing text
  | .opening => .unmatchedOpening text

/-- The pieces of a parameter list between its commas outside angle brackets. The first argument counts
the angle brackets that are open. -/
def cutParameters (depth : Nat) : List Char → Except Imbalance (List (List Char))
  | [] => if depth = 0 then .ok [[]] else .error .opening
  | character :: rest =>
      if character = '<' then
        (cutParameters (depth + 1) rest).map (Text.extendFirst character)
      else if character = '>' then
        match depth with
        | 0 => .error .closing
        | outer + 1 => (cutParameters outer rest).map (Text.extendFirst character)
      else if character = ',' ∧ depth = 0 then
        (cutParameters depth rest).map ([] :: ·)
      else
        (cutParameters depth rest).map (Text.extendFirst character)

/-- The types that the pieces of a parameter list name: none if the list is blank. -/
def typesOfPieces (parts : List (List Char)) : List (List Char) :=
  match parts.map Text.trim with
  | [[]] => []
  | types => types

/-- The signature that a text without outer white space denotes. -/
def ofTrimmed (text : List Char) : Except Malformation Signature :=
  match Text.cutAtFirst '(' text with
  | none => .error (.noOpening (String.ofList text))
  | some (beforeOpening, afterOpening) =>
      if text.getLast? ≠ some ')' then
        .error (.noClosing (String.ofList text))
      else if !Name.isIdentifier (Text.trim beforeOpening) then
        .error (.invalidName (String.ofList (Text.trim beforeOpening)))
      else
        match cutParameters 0 afterOpening.dropLast with
        | .error imbalance => .error (imbalance.malformation (String.ofList text))
        | .ok parts =>
            if (typesOfPieces parts).any List.isEmpty then
              .error (.emptyParameter (String.ofList text))
            else
              .ok
                { name := String.ofList (Text.trim beforeOpening)
                  parameterTypes := (typesOfPieces parts).map String.ofList }

/-- The signature that a text denotes. -/
def parse (text : String) : Except Malformation Signature :=
  ofTrimmed (Text.trim text.toList)

end Signature
end FragmentAssembly
