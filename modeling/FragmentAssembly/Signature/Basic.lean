/-!
# Method signatures

A method is told apart by its name and the types of its parameters.
-/

namespace FragmentAssembly

/-- The name of a method and the types of its parameters. -/
structure Signature where
  /-- Name of the method. -/
  name : String
  /-- Types of the parameters, from the first to the last. -/
  parameterTypes : List String
  deriving DecidableEq

namespace Signature

/-- The number of parameters. -/
def arity (signature : Signature) : Nat :=
  signature.parameterTypes.length

/-- The written form: the name, then the parameter types in parentheses. -/
def display (signature : Signature) : String :=
  signature.name ++ "(" ++ ", ".intercalate signature.parameterTypes ++ ")"

/-- Order of lists of texts: the first difference decides, and a shorter list comes first. -/
def compareTexts : List String → List String → Ordering
  | [], [] => .eq
  | [], _ :: _ => .lt
  | _ :: _, [] => .gt
  | left :: lefts, right :: rights => (compare left right).then (compareTexts lefts rights)

/-- Order of signatures: by name, then by parameter types. -/
def compare (left right : Signature) : Ordering :=
  (Ord.compare left.name right.name).then (compareTexts left.parameterTypes right.parameterTypes)

/-- Signatures in increasing order. -/
def sort (signatures : List Signature) : List Signature :=
  signatures.mergeSort fun left right => (left.compare right).isLE

end Signature
end FragmentAssembly
