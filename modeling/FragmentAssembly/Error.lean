import FragmentAssembly.Contract
import FragmentAssembly.Signature.Parser

/-!
# Errors

Everything that goes wrong is one of nine causes. The text of a cause is given by one function, and
implementations may raise any of them.
-/

namespace FragmentAssembly

/-- Why an operation fails. -/
inductive Error where
  /-- A fragment of a repository is a placeholder; its contract tells which. -/
  | fragmentNotImplemented (message interface : String) (placeholder : Contract)
  /-- A repository cannot be created. -/
  | repositoryCreation (message interface : String)
  /-- An argument is out of the domain of an operation. -/
  | invalidArgument (message : String)
  /-- An operation is not possible at this point. -/
  | illegalState (message : String)
  /-- No fragment of a repository declares a method. -/
  | methodNotFound (interface method : String)
  /-- An implementation could not answer. -/
  | invocationFailed (method reason : String)
  /-- A registration is malformed. -/
  | invalidRegistration (line : Nat) (reason : String)
  /-- A file could not be read. -/
  | inputOutput (message : String)
  /-- A text does not denote a value of the expected kind. -/
  | serialization (message : String)

namespace Error

/-- The error for a placeholder that was used in a repository. -/
def noImplementation (interface : String) (placeholder : Contract) : Error :=
  .fragmentNotImplemented
    ("Fragment " ++ placeholder.name ++ " used in " ++ interface ++ " has no implementation") interface
    placeholder

/-- The error for a read of the current invocation where there is none. -/
def noInvocation : Error :=
  .illegalState
    "No repository method context available; enable expose_metadata on the repository"

/-- The error for an implementation that leaves methods of a contract unanswered. -/
def unsatisfied (typeName : String) (contract : Contract) (missing : List Signature) : Error :=
  .invalidArgument
    ("Implementation " ++ typeName ++ " does not satisfy " ++ contract.name ++ ": missing " ++
      ", ".intercalate (missing.map Signature.display))

/-- The error for a second candidate of one type. -/
def alreadyRegistered (typeName : String) : Error :=
  .invalidArgument ("Implementation " ++ typeName ++ " already registered")

/-- The error for a repository that no store module accepts. -/
def noStoreModule (interface : String) (isReactive : Bool) : Error :=
  .repositoryCreation
    ("no store module accepts this " ++ (if isReactive then "reactive" else "imperative") ++
      " repository")
    interface

/-- The error for a text that is not a signature. -/
def malformedSignature (malformation : Signature.Malformation) : Error :=
  .invalidArgument malformation.message

/-- What is said about an error. -/
def message : Error → String
  | .fragmentNotImplemented message _ _ => message
  | .repositoryCreation message interface =>
      "Repository creation failed for " ++ interface ++ ": " ++ message
  | .invalidArgument message => "Invalid argument: " ++ message
  | .illegalState message => "Illegal state: " ++ message
  | .methodNotFound interface method =>
      "Method " ++ method ++ " is not declared by any fragment of " ++ interface
  | .invocationFailed method reason => "Invocation of " ++ method ++ " failed: " ++ reason
  | .invalidRegistration line reason =>
      "Invalid registration at line " ++ toString line ++ ": " ++ reason
  | .inputOutput message => "I/O error: " ++ message
  | .serialization message => "Serialization error: " ++ message

/-- The interface of the repository that an error is about. -/
def interface? : Error → Option String
  | .fragmentNotImplemented _ interface _ => some interface
  | .repositoryCreation _ interface => some interface
  | .methodNotFound interface _ => some interface
  | _ => none

/-- The contract of the placeholder that an error reports. -/
def placeholder? : Error → Option Contract
  | .fragmentNotImplemented _ _ placeholder => some placeholder
  | _ => none

/-- Whether an error says that a repository cannot be created or is incomplete. -/
def isCreationError : Error → Bool
  | .fragmentNotImplemented .. => true
  | .repositoryCreation .. => true
  | _ => false

/-- Whether an error says that an operation is not possible at this point. -/
def isIllegalState : Error → Bool
  | .illegalState _ => true
  | _ => false

end Error
end FragmentAssembly
