import FragmentAssembly.Fragment.Execution

/-!
# The stages of using a fragment

Using a fragment is a sequence of stages, each of which hands its result to the next one: the factory
runs, its instance is checked and kept, and the instance runs the method. A stage that fails or is
aborted ends the sequence.
-/

namespace FragmentAssembly

variable {σ α β : Type}

namespace Run

/-- A run that ends at once. -/
def stop (ending : Ending α) : Run σ α := fun world => some (ending, world)

/-- Run a second stage on the result of a first one. -/
def bind (first : Run σ α) (second : α → Run σ β) : Run σ β := fun world =>
  match first world with
  | none => none
  | some (.value result, after) => second result after
  | some (.failure error, after) => some (.failure error, after)
  | some (.abort message, after) => some (.abort message, after)

end Run

namespace Fragment

/-- Keep an instance that a factory made, if it satisfies the contract. -/
def keep (contract : Contract) (source : Deferred σ) (implementation : Implementation σ) :
    Run σ (Implementation σ) := fun world =>
  if implementation.satisfies contract then
    some (.value implementation, world.fill source.cell implementation)
  else
    some (.failure (implementation.unsatisfied contract), world)

/-- What an instance does for a method; a placeholder has none. -/
def serve (answer : Call → Run σ Json) (fragment : Fragment σ) (interface : String)
    (method : Signature) (arguments : List Json) : Option (Implementation σ) → Run σ Json
  | some implementation => (implementation.invoke method arguments).run answer []
  | none => .stop (.failure (.noImplementation interface fragment.contract))

theorem materialize_eq (answer : Call → Run σ Json) (contract : Contract) (source : Deferred σ)
    (world : World σ) :
    materialize answer contract source world =
      match world.instances.content? source.cell with
      | some implementation => Run.stop (.value implementation) world
      | none =>
          (Run.bind (source.factory.run answer []) (keep contract source))
            (world.report [.materializing source.typeName contract.name]) := by
  rw [materialize]
  cases world.instances.content? source.cell with
  | some implementation => rfl
  | none =>
      simp only [Run.bind]
      rcases source.factory.run answer [] _ with _ | ⟨_ | _ | _, after⟩ <;> rfl

theorem implementation_eq (answer : Call → Run σ Json) (fragment : Fragment σ) :
    fragment.implementation answer =
      match fragment.binding with
      | none => Run.stop (.value none)
      | some (.eager implementation) => Run.stop (.value (some implementation))
      | some (.deferred source) =>
          Run.bind (materialize answer fragment.contract source) fun implementation =>
            Run.stop (.value (some implementation)) := by
  funext world
  rw [implementation]
  cases fragment.binding with
  | none => rfl
  | some binding =>
      cases binding with
      | eager implementation => rfl
      | deferred source =>
          simp only [Run.bind]
          rcases materialize answer fragment.contract source world with _ | ⟨_ | _ | _, after⟩ <;> rfl

/-- A call of a fragment finds the instance and lets it work. -/
theorem invoke_eq (answer : Call → Run σ Json) (fragment : Fragment σ) (interface : String)
    (method : Signature) (arguments : List Json) :
    fragment.invoke answer interface method arguments =
      Run.bind (fragment.implementation answer)
        (fragment.serve answer interface method arguments) := by
  funext world
  rw [invoke, Run.bind]
  rcases fragment.implementation answer world with _ | ⟨(_ | implementation) | _ | _, after⟩ <;> rfl

end Fragment
end FragmentAssembly
