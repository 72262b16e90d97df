import FragmentAssembly.World

/-!
# Using a fragment

The instance of a fragment is made when it is first needed. A factory that fails, is aborted, or makes
an instance that does not satisfy the contract leaves the cell empty, and the next use runs it again.
-/

namespace FragmentAssembly
namespace Fragment

variable {σ : Type}

/-- Make the instance of a cell for a contract, unless it exists. -/
def materialize (answer : Call → Run σ Json) (contract : Contract) (source : Deferred σ) :
    Run σ (Implementation σ) := fun world =>
  match world.instances.content? source.cell with
  | some implementation => some (.value implementation, world)
  | none =>
      match source.factory.run answer [] (world.report [.materializing source.typeName contract.name])
      with
      | none => none
      | some (.value implementation, after) =>
          if implementation.satisfies contract then
            some (.value implementation, after.fill source.cell implementation)
          else
            some (.failure (implementation.unsatisfied contract), after)
      | some (.failure error, after) => some (.failure error, after)
      | some (.abort message, after) => some (.abort message, after)

/-- The instance of a fragment; a placeholder has none. -/
def implementation (answer : Call → Run σ Json) (fragment : Fragment σ) :
    Run σ (Option (Implementation σ)) := fun world =>
  match fragment.binding with
  | none => some (.value none, world)
  | some (.eager implementation) => some (.value (some implementation), world)
  | some (.deferred source) =>
      (materialize answer fragment.contract source world).map fun (ending, after) =>
        (ending.map some, after)

/-- Call a method of a fragment on behalf of an interface. -/
def invoke (answer : Call → Run σ Json) (fragment : Fragment σ) (interface : String)
    (method : Signature) (arguments : List Json) : Run σ Json := fun world =>
  match fragment.implementation answer world with
  | none => none
  | some (.value (some implementation), after) => (implementation.invoke method arguments).run answer [] after
  | some (.value none, after) =>
      some (.failure (.noImplementation interface fragment.contract), after)
  | some (.failure error, after) => some (.failure error, after)
  | some (.abort message, after) => some (.abort message, after)

end Fragment
end FragmentAssembly
