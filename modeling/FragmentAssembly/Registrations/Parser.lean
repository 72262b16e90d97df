import FragmentAssembly.Error
import FragmentAssembly.Registrations.Basic
import FragmentAssembly.Registrations.Lines

/-!
# Reading registrations

Each logical line declares implementations for one contract: a qualified name, an equals sign, and
qualified names with commas between them. The first malformed line is reported by its number.
-/

namespace FragmentAssembly
namespace Registrations

/-- Why a logical line declares nothing. -/
inductive Malformation where
  /-- No equals sign. -/
  | noEquals (line : String)
  /-- A contract whose name is not qualified. -/
  | unqualifiedContract (name : String)
  /-- No implementation. -/
  | noImplementation (contract : String)
  /-- An implementation whose name is not qualified. -/
  | unqualifiedImplementation (name : String)
  deriving DecidableEq

/-- What is said about a malformed line. -/
def Malformation.message : Malformation → String
  | .noEquals line => "expected 'Contract=Implementation', found '" ++ line ++ "'"
  | .unqualifiedContract name => "'" ++ name ++ "' is not a qualified contract name"
  | .noImplementation contract => "no implementation declared for '" ++ contract ++ "'"
  | .unqualifiedImplementation name => "'" ++ name ++ "' is not a qualified implementation name"

/-- The names in a list with commas; empty ones are left out. -/
def namesIn (list : List Char) : List (List Char) :=
  ((Text.pieces ',' list).map Text.trim).filter (!·.isEmpty)

/-- What a logical line declares. -/
structure Declaration where
  /-- Name of the contract. -/
  contract : String
  /-- Names of the implementations, as often as they are written. -/
  implementations : List String
  deriving DecidableEq

/-- The declaration in the content of a logical line. -/
def declaration (content : List Char) : Except Malformation Declaration :=
  match Text.cutAtFirst '=' content with
  | none => .error (.noEquals (String.ofList content))
  | some (key, value) =>
      let contract := Text.trim key
      let names := namesIn value
      if !Name.isQualified contract then
        .error (.unqualifiedContract (String.ofList contract))
      else if names.isEmpty then
        .error (.noImplementation (String.ofList contract))
      else
        match names.find? (!Name.isQualified ·) with
        | some name => .error (.unqualifiedImplementation (String.ofList name))
        | none => .ok ⟨String.ofList contract, names.map String.ofList⟩

/-- A malformed logical line. -/
structure Rejection where
  /-- Number of its first physical line. -/
  line : Nat
  /-- What is wrong with it. -/
  malformation : Malformation
  deriving DecidableEq

/-- The error that a malformed line amounts to. -/
def Rejection.error (rejection : Rejection) : Error :=
  .invalidRegistration rejection.line rejection.malformation.message

/-- Registrations with the declarations of logical lines added. -/
def declareLines (registrations : Registrations) :
    List LogicalLine → Except Rejection Registrations
  | [] => .ok registrations
  | line :: rest =>
      match declaration line.content with
      | .error malformation => .error ⟨line.number, malformation⟩
      | .ok declared =>
          declareLines (registrations.registerAll declared.contract declared.implementations) rest

/-- The registrations that a text declares. -/
def parse (text : String) : Except Rejection Registrations :=
  declareLines empty (logicalLines text.toList)

/-- The registrations that the bytes of a file declare; the bytes must be UTF-8. -/
def parseBytes (bytes : ByteArray) : Except Error Registrations :=
  match String.fromUTF8? bytes with
  | none => .error (.inputOutput "stream did not contain valid UTF-8")
  | some text => (parse text).mapError Rejection.error

end Registrations
end FragmentAssembly
