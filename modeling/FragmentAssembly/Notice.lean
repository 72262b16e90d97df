import FragmentAssembly.Signature.Basic
import FragmentAssembly.Text.Quoted

/-!
# Notices

What the assembly of repositories and the calls to them report to a log. A notice names its facts; how
it is written follows from its kind.
-/

namespace FragmentAssembly

/-- How important a notice is. -/
inductive Level where
  /-- For those who look for a fault. -/
  | debug
  /-- For those who run the application. -/
  | info
  /-- For those who should look into something. -/
  | warn

/-- The name of a level. -/
def Level.name : Level → String
  | .debug => "DEBUG"
  | .info => "INFO"
  | .warn => "WARN"

/-- A fact that is reported. -/
inductive Notice where
  /-- A method of a repository is being called. -/
  | calling (interface method : String)
  /-- A factory is about to make an implementation. -/
  | materializing (implementation contract : String)
  /-- An appended fragment takes the slot of a placeholder. -/
  | filling (contract : String) (slot : Nat)
  /-- An appended fragment is dropped, because its contract is implemented. -/
  | duplicate (contract : String) (kept ignored : Option String)
  /-- A registration text was read. -/
  | registrations (contracts : Nat)
  /-- Exactly one candidate was found by its name. -/
  | resolved (contract implementation : String)
  /-- Of several candidates one has the expected identity. -/
  | resolvedByIdentity (contract implementation identity : String) (candidates : Nat)
  /-- Of several candidates none has the expected identity. -/
  | ambiguous (contract identity : String) (candidates : List String)
  /-- A registered implementation was found. -/
  | resolvedByRegistration (contract implementation : String)
  /-- A registered implementation is not in the catalog. -/
  | unknownRegistration (contract implementation : String)
  /-- Nothing was found. -/
  | unresolved (contract : String)
  /-- A repository was created. -/
  | created (interface storeModule : String) (fragments placeholders : Nat)

namespace Notice

/-- Whether a notice opens a span; otherwise it is an event. -/
def isSpan : Notice → Bool
  | .calling .. => true
  | _ => false

/-- The importance of a notice. -/
def level : Notice → Level
  | .duplicate .. => .warn
  | .ambiguous .. => .warn
  | .unknownRegistration .. => .warn
  | .created .. => .info
  | _ => .debug

/-- The text of a notice. -/
def message : Notice → String
  | .calling .. => "repository.invoke"
  | .materializing .. => "materializing fragment implementation"
  | .filling .. => "binding implementation to placeholder fragment"
  | .duplicate .. => "contract already implemented; ignoring duplicate fragment"
  | .registrations .. => "parsed external fragment registrations"
  | .resolved .. => "resolved fragment implementation"
  | .resolvedByIdentity .. => "resolved ambiguous fragment implementation by identity"
  | .ambiguous .. => "no candidate matches the expected identity; fragment left unimplemented"
  | .resolvedByRegistration .. => "resolved fragment implementation from external registration"
  | .unknownRegistration .. => "externally registered implementation is not in the catalog"
  | .unresolved .. => "no implementation found; fragment left unimplemented"
  | .created .. => "created repository"

/-- The facts of a notice, each with its name. -/
def fields : Notice → List (String × String)
  | .calling interface method => [("repository", interface), ("method", method)]
  | .materializing implementation contract =>
      [("implementation", implementation), ("contract", contract)]
  | .filling contract slot => [("contract", contract), ("slot", toString slot)]
  | .duplicate contract kept ignored =>
      [("contract", contract), ("kept", Text.quotedOption kept),
        ("ignored", Text.quotedOption ignored)]
  | .registrations contracts => [("contracts", toString contracts)]
  | .resolved contract implementation =>
      [("contract", contract), ("implementation", implementation)]
  | .resolvedByIdentity contract implementation identity candidates =>
      [("contract", contract), ("implementation", implementation), ("identity", identity),
        ("candidates", toString candidates)]
  | .ambiguous contract identity candidates =>
      [("contract", contract), ("identity", identity), ("candidates", Text.quotedList candidates)]
  | .resolvedByRegistration contract implementation =>
      [("contract", contract), ("implementation", implementation)]
  | .unknownRegistration contract implementation =>
      [("contract", contract), ("implementation", implementation)]
  | .unresolved contract => [("contract", contract)]
  | .created interface storeModule fragments placeholders =>
      [("repository", interface), ("module", storeModule), ("fragments", toString fragments),
        ("unimplemented", toString placeholders)]

end Notice
end FragmentAssembly
