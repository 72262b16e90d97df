import FragmentAssembly.Composition.Dispatch

/-!
# Repositories

A repository is a composition that serves an interface, together with the decision whether the calls to
it are shown to the implementations they reach.
-/

namespace FragmentAssembly

variable {σ : Type}

/-- A repository assembled from fragments. -/
structure Repository (σ : Type) where
  /-- The interface that is served. -/
  interface : Interface
  /-- The fragments, attached to the interface. -/
  composition : Composition σ
  /-- Whether a call makes its invocation current. -/
  exposesMetadata : Bool

namespace Repository

/-- A repository with the fragments of a composition, whatever interface it was attached to. -/
def ofComposition (interface : Interface) (composition : Composition σ) (exposesMetadata : Bool) :
    Repository σ where
  interface := interface
  composition := composition.attach interface.name
  exposesMetadata := exposesMetadata

/-- The routes of the methods. -/
def table (repository : Repository σ) : DispatchTable σ :=
  repository.composition.dispatchTable

/-- Whether a fragment declares a method. -/
def declares (repository : Repository σ) (method : Signature) : Bool :=
  (repository.table.lookup? method).isSome

/-- The fragment that answers a method. -/
def target (repository : Repository σ) (method : Signature) : Except Error (Fragment σ) :=
  match repository.table.resolve method with
  | .error error => .error error
  | .ok (some fragment) => .ok fragment
  | .ok none => .error (.methodNotFound repository.interface.name method.display)

end Repository
end FragmentAssembly
