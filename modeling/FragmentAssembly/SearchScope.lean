import FragmentAssembly.Catalog
import FragmentAssembly.Configuration

/-!
# Search scopes

A scope says which candidates count for a repository: their types lie under a searched package and do
not start with an excluded text. Without base packages the repository's own package is searched.
-/

namespace FragmentAssembly

variable {σ : Type}

/-- Where implementations are looked for, and how they are named. -/
structure SearchScope where
  /-- Packages to search; if there are none, the interface's own. -/
  basePackages : List String
  /-- What follows a contract's simple name in the simple name of its implementation. -/
  implementationPostfix : String
  /-- Starts of the names of types that are never used. -/
  excludeFilters : List String
  deriving DecidableEq

namespace SearchScope

/-- The scope of base packages, with the usual postfix and nothing excluded. -/
def ofPackages (basePackages : List String) : SearchScope where
  basePackages := basePackages
  implementationPostfix := Configuration.defaultPostfix
  excludeFilters := []

/-- The scope that a configuration describes. -/
def ofConfiguration (configuration : Configuration) : SearchScope where
  basePackages := configuration.basePackages
  implementationPostfix := configuration.implementationPostfix
  excludeFilters := configuration.excludeFilters

/-- Whether a package is a base package or lies inside of it. Everything lies inside the package
without a name. -/
def isWithin (package base : List Char) : Bool :=
  base.isEmpty || package = base || (base ++ ['.']).isPrefixOf package

/-- The packages that are searched for an interface. -/
def packagesFor (scope : SearchScope) (interface : Interface) : List String :=
  if scope.basePackages.isEmpty then [interface.package] else scope.basePackages

/-- Whether a type name is excluded. -/
def excludes (scope : SearchScope) (typeName : String) : Bool :=
  scope.excludeFilters.any fun start => start.toList.isPrefixOf typeName.toList

/-- Whether a candidate counts for an interface. -/
def covers (scope : SearchScope) (interface : Interface) (candidate : Candidate σ) : Bool :=
  !scope.excludes candidate.typeName &&
    (scope.packagesFor interface).any fun base =>
      isWithin candidate.package.toList base.toList

end SearchScope
end FragmentAssembly
