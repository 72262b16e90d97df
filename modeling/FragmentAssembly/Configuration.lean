/-!
# Configuration of an assembler

Where implementations are looked for, when a repository must be complete, and whether implementations
learn about the call they serve.
-/

namespace FragmentAssembly

/-- When the placeholders of a repository are reported. -/
inductive BootstrapMode where
  /-- When one of their methods is invoked. -/
  | lazy
  /-- When the repository is created. -/
  | eager
  deriving DecidableEq

/-- The settings of an assembler. -/
structure Configuration where
  /-- Whether a call makes its invocation current. -/
  exposesMetadata : Bool
  /-- What follows a contract's simple name in the simple name of its implementation. -/
  implementationPostfix : String
  /-- Packages to search; if there are none, the interface's own. -/
  basePackages : List String
  /-- Starts of the names of types that are never used. -/
  excludeFilters : List String
  /-- When placeholders are reported. -/
  bootstrapMode : BootstrapMode
  deriving DecidableEq

namespace Configuration

/-- The postfix that is used unless another is configured. -/
def defaultPostfix : String := "Impl"

/-- The settings that are used unless others are given. -/
def default : Configuration where
  exposesMetadata := false
  implementationPostfix := defaultPostfix
  basePackages := []
  excludeFilters := []
  bootstrapMode := .lazy

end Configuration
end FragmentAssembly
