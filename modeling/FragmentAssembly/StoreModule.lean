import FragmentAssembly.Interface

/-!
# Store modules

A store module decides which repositories it is responsible for. A module is imperative or reactive,
or has a rule of its own.
-/

namespace FragmentAssembly

/-- A module that creates repositories for one kind of store. -/
structure StoreModule where
  /-- Name of the module. -/
  name : String
  /-- What the keys of the module's own settings start with. -/
  keyStart : String
  /-- Whether the module creates the repository of an interface. -/
  accepts : Interface → Bool

namespace StoreModule

/-- A module for repositories that are not reactive. -/
def imperative (name keyStart : String) : StoreModule :=
  { name, keyStart, accepts := fun interface => !interface.isReactive }

/-- A module for reactive repositories. -/
def reactive (name keyStart : String) : StoreModule :=
  { name, keyStart, accepts := fun interface => interface.isReactive }

end StoreModule
end FragmentAssembly
