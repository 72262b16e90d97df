import FragmentAssembly.Proofs.Events.Cells

/-!
# Uses of a fragment

A fragment is used by asking a copy for the instance, by calling a method of a copy, or by calling a
repository that routes the method to a copy. All of these make the instance, unless it exists, and then
work with it. If the factory brings no instance that satisfies the contract, the use ends as its run did.
-/

namespace FragmentAssembly

variable {σ : Type}

namespace Fragment

theorem Rejected.of_failure {α β : Type} {contract : Contract} {made : Ending (Implementation σ)}
    {error : Error} (rejected : Rejected contract made (.failure error : Ending α)) :
    Rejected contract made (.failure error : Ending β) := by
  cases rejected with
  | failure error => exact .failure error
  | unsatisfied lacks => exact .unsatisfied lacks

theorem Rejected.of_abort {α β : Type} {contract : Contract} {made : Ending (Implementation σ)}
    {message : String} (rejected : Rejected contract made (.abort message : Ending α)) :
    Rejected contract made (.abort message : Ending β) := by
  cases rejected with
  | abort message => exact .abort message

/-- What needs the instance of an empty cell runs the factory once, and fails with it or goes on with its
instance. -/
theorem bind_watchMaterialize_of_empty {β : Type} {answer : Call → Watched σ Json}
    {contract : Contract} {source : Deferred σ} {second : Implementation σ → Watched σ β}
    {world after : World σ} {ending : Ending β} {events : List (Event σ)}
    (empty : world.instances.content? source.cell = none)
    (ran : (watchMaterialize answer contract source).bind second world =
      some (ending, after, events)) :
    ∃ made middle inside,
      source.factory.watch answer []
          (world.report [.materializing source.typeName contract.name]) =
        some (made, middle, inside) ∧
      ((Rejected contract made ending ∧ after = middle ∧
          events = inside ++ [.made source.cell made]) ∨
        ∃ implementation later, made = .value implementation ∧
          implementation.satisfies contract = true ∧
          second implementation (middle.fill source.cell implementation) =
            some (ending, after, later) ∧
          events = inside ++ .made source.cell made :: later) := by
  rcases Watched.bind_cases ran with
    ⟨implementation, reached, earlier, later, first, continued, rfl⟩ | ⟨error, first, rfl⟩ |
      ⟨message, first, rfl⟩
  · obtain ⟨made, middle, inside, run, rfl, ⟨_, rfl, satisfies, same, rfl⟩ | rejected⟩ :=
      watchMaterialize_of_empty empty first
    · cases same
      refine ⟨_, middle, inside, run, .inr ⟨implementation, later, rfl, satisfies, continued, ?_⟩⟩
      rw [List.append_assoc, List.singleton_append]
    · cases rejected.1
  · obtain ⟨made, middle, inside, run, rfl, ⟨_, _, _, impossible, _⟩ | ⟨rejected, rfl⟩⟩ :=
      watchMaterialize_of_empty empty first
    · cases impossible
    · exact ⟨made, _, inside, run, .inl ⟨rejected.of_failure, rfl, rfl⟩⟩
  · obtain ⟨made, middle, inside, run, rfl, ⟨_, _, _, impossible, _⟩ | ⟨rejected, rfl⟩⟩ :=
      watchMaterialize_of_empty empty first
    · cases impossible
    · exact ⟨made, _, inside, run, .inl ⟨rejected.of_abort, rfl, rfl⟩⟩

end Fragment

theorem Fragment.watchInvoke_of_deferred {fragment : Fragment σ} {source : Deferred σ}
    (bound : fragment.binding = some (.deferred source)) (answer : Call → Watched σ Json)
    (interface : String) (method : Signature) (arguments : List Json) :
    fragment.watchInvoke answer interface method arguments =
      (watchMaterialize answer fragment.contract source).bind fun implementation =>
        fragment.watchServe answer interface method arguments (some implementation) := by
  funext world
  rw [watchInvoke, watchImplementation, bound]
  simp only [Watched.bind]
  rcases watchMaterialize answer fragment.contract source world with
    _ | ⟨implementation | error | message, middle, events⟩
  · rfl
  · simp [Watched.following, Watched.silent, Run.stop]
  · rfl
  · rfl

/-- A use of a copy of a fragment. -/
inductive Use (σ : Type) where
  /-- Ask a copy for its instance. -/
  | fetch (copy : Fragment σ)
  /-- Call a method of a copy on behalf of an interface. -/
  | invoke (copy : Fragment σ) (interface : String) (method : Signature) (arguments : List Json)
  /-- Call a repository that holds a copy. -/
  | call (request : Call)

/-- What a use gives. -/
inductive Use.Result (σ : Type) where
  /-- The instance, if there is one. -/
  | found (implementation : Option (Implementation σ))
  /-- What a method returns. -/
  | returned (result : Json)

namespace Use

variable (directory : Directory σ) (depth : Nat)

/-- Use a copy. -/
def run : Use σ → Run σ (Result σ)
  | .fetch copy => (copy.implementation (directory.answer depth)).map .found
  | .invoke copy interface method arguments =>
      (copy.invoke (directory.answer depth) interface method arguments).map .returned
  | .call request => (directory.answer (depth + 1) request).map .returned

/-- Use a copy and list what happens. -/
def watch : Use σ → Watched σ (Result σ)
  | .fetch copy => (copy.watchImplementation (directory.watch depth)).map .found
  | .invoke copy interface method arguments =>
      (copy.watchInvoke (directory.watch depth) interface method arguments).map .returned
  | .call request => (directory.watch (depth + 1) request).map .returned

theorem forget_watch (use : Use σ) : (use.watch directory depth).forget = use.run directory depth := by
  have answers := directory.forget_comp_watch depth
  cases use with
  | fetch copy => rw [watch, Watched.forget_map, Fragment.forget_watchImplementation, answers, run]
  | invoke copy interface method arguments =>
      rw [watch, Watched.forget_map, Fragment.forget_watchInvoke, answers, run]
  | call request => rw [watch, Watched.forget_map, Directory.forget_watch, run]

/-- The use reaches a copy of the fragment. Copies are equal: they share the contract, the factory and
the cell. -/
def Reaches (fragment : Fragment σ) : Use σ → Prop
  | .fetch copy => copy = fragment
  | .invoke copy _ _ _ => copy = fragment
  | .call request => (directory request.repository).target request.method = .ok fragment

/-- What a use of a fragment does with the instance. -/
def work (fragment : Fragment σ) (implementation : Implementation σ) : Use σ → Watched σ (Result σ)
  | .fetch _ => .silent (.stop (.value (.found (some implementation))))
  | .invoke _ interface method arguments =>
      (fragment.watchServe (directory.watch depth) interface method arguments
        (some implementation)).map .returned
  | .call request =>
      (fragment.watchServe (directory.watch depth) (directory request.repository).interface.name
        request.method request.arguments (some implementation)).map .returned

end Use

theorem Use.obeys_watch {directory : Directory σ} {reached : Signature → Fragment σ → Prop}
    {relation : World σ → List (Event σ) → World σ → Prop} (law : Law directory reached relation)
    (reaches : ∀ method fragment, reached method fragment) (depth : Nat) (use : Use σ) :
    (use.watch directory depth).Obeys relation := by
  intro world ending after events ran
  have answers := directory.obeys_watch law depth
  cases use with
  | fetch copy =>
      obtain ⟨ended, found, rfl⟩ := Watched.ends_of_map ran
      exact Fragment.obeys_watchImplementation law answers (reaches ⟨"", []⟩ copy) found
  | invoke copy interface method arguments =>
      obtain ⟨ended, invoked, rfl⟩ := Watched.ends_of_map ran
      exact Fragment.obeys_watchInvoke law answers (reaches method copy) interface arguments invoked
  | call request =>
      obtain ⟨ended, called, rfl⟩ := Watched.ends_of_map ran
      exact directory.obeys_watch law (depth + 1) request called

section Uses

variable {directory : Directory σ} {depth : Nat} {fragment : Fragment σ} {source : Deferred σ}
  (bound : fragment.binding = some (.deferred source))

include bound

/-- Every use of a copy makes the instance, unless it exists, and works with it. -/
theorem Use.watch_inner {use : Use σ} (reaches : use.Reaches directory fragment)
    {world after : World σ} {ending : Ending (Use.Result σ)} {events : List (Event σ)}
    (ran : use.watch directory depth world = some (ending, after, events)) :
    ∃ entered left, entered.Alike world ∧ after.Alike left ∧
      (Fragment.watchMaterialize (directory.watch depth) fragment.contract source).bind
          (fun implementation => use.work directory depth fragment implementation) entered =
        some (ending, left, events) := by
  cases use with
  | fetch copy =>
      cases reaches
      refine ⟨world, after, ⟨rfl, rfl⟩, ⟨rfl, rfl⟩, ?_⟩
      rw [watch, Fragment.watchImplementation, bound] at ran
      rw [← ran, Watched.map_bind]
      rfl
  | invoke copy interface method arguments =>
      cases reaches
      refine ⟨world, after, ⟨rfl, rfl⟩, ⟨rfl, rfl⟩, ?_⟩
      rw [watch, Fragment.watchInvoke_of_deferred bound, Watched.map_bind] at ran
      exact ran
  | call request =>
      obtain ⟨ended, called, rfl⟩ := Watched.ends_of_map ran
      obtain ⟨entered, left, before, behind, invoked⟩ := Repository.watch_of_target_ok reaches called
      refine ⟨entered, left, before, behind, ?_⟩
      have answered := Watched.map_of_ends (Result.returned : Json → Result σ) invoked
      rw [Fragment.watchInvoke_of_deferred bound, Watched.map_bind] at answered
      exact answered

/-- What a use does with an instance leaves the cell of the instance alone. -/
theorem Use.settled_work {use : Use σ} {implementation : Implementation σ} {entered left : World σ}
    {ending : Ending (Use.Result σ)} {later : List (Event σ)}
    (full : entered.instances.content? source.cell = some implementation)
    (ran : use.work directory depth fragment implementation entered = some (ending, left, later)) :
    Event.makings source.cell later = [] ∧
      left.instances.content? source.cell = some implementation := by
  have law := Cell.law_settled directory source.cell
  have holds : entered.Holds fragment implementation := .inr ⟨source, bound, full⟩
  have settled : Cell.Settled source.cell entered later left := by
    cases use with
    | fetch copy =>
        cases ran
        exact .of_same rfl rfl
    | invoke copy interface method arguments =>
        obtain ⟨ended, served, rfl⟩ := Watched.ends_of_map ran
        exact Fragment.obeys_watchServe law (directory.obeys_watch law depth) trivial holds served
    | call request =>
        obtain ⟨ended, served, rfl⟩ := Watched.ends_of_map ran
        exact Fragment.obeys_watchServe law (directory.obeys_watch law depth) trivial holds served
  have none := settled.full implementation full
  exact ⟨none, (settled.unchanged none).trans full⟩

end Uses

end FragmentAssembly
