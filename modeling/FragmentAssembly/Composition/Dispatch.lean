import FragmentAssembly.Composition.Basic

/-!
# Dispatch tables

The table of a composition maps each method to the first slot whose contract declares it. It is
computed once, and looking a method up in it gives what a search through the slots gives.
-/

namespace FragmentAssembly

variable {σ : Type}

/-- Where a method is routed. -/
structure Target (σ : Type) where
  /-- Number of the slot. -/
  slot : Nat
  /-- The fragment in that slot. -/
  fragment : Fragment σ

/-- The routes of the methods of an interface. -/
structure DispatchTable (σ : Type) where
  /-- Name of the interface. -/
  interface : String
  /-- The methods and their targets, in order of first appearance. -/
  routes : List (Signature × Target σ)

namespace DispatchTable

/-- Add routes for methods that lead to one target. The first route of a method stays. -/
def addMethods (routes : List (Signature × Target σ)) (target : Target σ) (methods : List Signature) :
    List (Signature × Target σ) :=
  methods.foldl (fun routes method => Distinct.insertBy Prod.fst routes (method, target)) routes

/-- Add the routes of slots numbered from `number`, slot by slot. -/
def addSlots (routes : List (Signature × Target σ)) (number : Nat) :
    List (Fragment σ) → List (Signature × Target σ)
  | [] => routes
  | fragment :: others =>
      addSlots (addMethods routes ⟨number, fragment⟩ fragment.contract.methods) (number + 1) others

/-- The methods of the table. -/
def methods (table : DispatchTable σ) : List Signature :=
  table.routes.map Prod.fst

/-- The number of methods. -/
def size (table : DispatchTable σ) : Nat :=
  table.routes.length

/-- The target of a method. -/
def lookup? (table : DispatchTable σ) (method : Signature) : Option (Target σ) :=
  (table.routes.find? fun route => route.1 = method).map Prod.snd

/-- The fragment that answers a method; it must be implemented. -/
def resolve (table : DispatchTable σ) (method : Signature) : Except Error (Option (Fragment σ)) :=
  match table.lookup? method with
  | none => .ok none
  | some target =>
      if target.fragment.isImplemented then
        .ok (some target.fragment)
      else
        .error (.noImplementation table.interface target.fragment.contract)

end DispatchTable

/-- The table of a composition. -/
def Composition.dispatchTable (composition : Composition σ) : DispatchTable σ where
  interface := composition.interfaceName
  routes := DispatchTable.addSlots [] 0 composition.slots

end FragmentAssembly
