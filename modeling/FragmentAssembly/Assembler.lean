import FragmentAssembly.Repository.Basic
import FragmentAssembly.Resolution
import FragmentAssembly.StoreModule
import FragmentAssembly.World

/-!
# Assembling repositories

An assembler creates the repository of an interface on top of a base fragment. Some store module must
be responsible for the interface, if there are store modules at all. In eager mode a repository with a
placeholder is not created.
-/

namespace FragmentAssembly

variable {σ : Type}

/-- What is needed to create repositories. -/
structure Assembler (σ : Type) where
  /-- What implementations are looked for in. -/
  resolver : Resolver σ
  /-- The settings. -/
  configuration : Configuration
  /-- The store modules, in order of registration. -/
  storeModules : List StoreModule

namespace Assembler

/-- The name of the first store module that accepts an interface. Without store modules every interface
is accepted. -/
def responsible (assembler : Assembler σ) (interface : Interface) : Except Error String :=
  if assembler.storeModules.isEmpty then
    .ok "default"
  else
    match assembler.storeModules.find? (·.accepts interface) with
    | some storeModule => .ok storeModule.name
    | none => .error (.noStoreModule interface.name interface.isReactive)

/-- The scope that implementations are looked for in. -/
def scope (assembler : Assembler σ) : SearchScope :=
  .ofConfiguration assembler.configuration

/-- The fragments of the repository of an interface. -/
def compose (assembler : Assembler σ) (interface : Interface) (base : Fragment σ) (cell : Nat) :
    Composition σ :=
  assembler.resolver.compose interface assembler.scope base cell

/-- Fail if the settings ask for a complete repository and a fragment is a placeholder. -/
def checkComplete (assembler : Assembler σ) (composition : Composition σ) : Except Error Unit :=
  match assembler.configuration.bootstrapMode with
  | .lazy => .ok ()
  | .eager => composition.requireImplemented

/-- The repository of an interface. The cells of the new fragments are numbered from `cell`. -/
def create (assembler : Assembler σ) (interface : Interface) (base : Fragment σ) (cell : Nat) :
    Except Error (Repository σ) := do
  let _ ← assembler.responsible interface
  let composition := assembler.compose interface base cell
  assembler.checkComplete composition
  return .ofComposition interface composition assembler.configuration.exposesMetadata

/-- The notices of creating the repository of an interface. -/
def createNotices (assembler : Assembler σ) (interface : Interface) (base : Fragment σ) :
    List Notice :=
  match assembler.responsible interface with
  | .error _ => []
  | .ok storeModule =>
      let composition := assembler.compose interface base 0
      assembler.resolver.composeNotices interface assembler.scope base ++
        match assembler.checkComplete composition with
        | .error _ => []
        | .ok () =>
            [.created interface.name storeModule composition.size composition.placeholders.length]

end Assembler

/-! ## Assembling in a world -/

namespace World

/-- Resolve a contract, with a new cell. -/
def resolve (world : World σ) (resolver : Resolver σ) (contract : Contract) (scope : SearchScope)
    (interface : Interface) : Fragment σ × World σ :=
  (resolver.resolve contract scope interface world.instances.next,
    (world.reserve 1).report
      ((resolver.search contract scope interface).notices contract.name))

/-- Append fragments to a composition. -/
def appendAll (world : World σ) (composition : Composition σ) (fragments : List (Fragment σ)) :
    Composition σ × World σ :=
  (composition.appendAll fragments, world.report (composition.appendNotices fragments))

/-- Fill the placeholders of a composition, with new cells. -/
def bind (world : World σ) (resolver : Resolver σ) (composition : Composition σ)
    (scope : SearchScope) (interface : Interface) : Composition σ × World σ :=
  (resolver.bind composition scope interface world.instances.next,
    (world.reserve composition.size).report (resolver.bindNotices composition scope interface))

/-- Compose the fragments of an interface, with new cells. -/
def compose (world : World σ) (resolver : Resolver σ) (interface : Interface) (scope : SearchScope)
    (base : Fragment σ) : Composition σ × World σ :=
  (resolver.compose interface scope base world.instances.next,
    (world.reserve interface.contracts.length).report
      (resolver.composeNotices interface scope base))

/-- Create the repository of an interface, with new cells. -/
def create (world : World σ) (assembler : Assembler σ) (interface : Interface)
    (base : Fragment σ) : Except Error (Repository σ) × World σ :=
  (assembler.create interface base world.instances.next,
    (world.reserve interface.contracts.length).report (assembler.createNotices interface base))

end World
end FragmentAssembly
