import FragmentAssembly.Proofs.Fragment.Stages
import FragmentAssembly.Proofs.Repository.Perform

/-!
# Watched runs

A watched run does what the run does and lists what it does with instances: which factories run for
which cells and how they end, which instances are called and for which contract, and which errors come
from the library and not from the application.
-/

namespace FragmentAssembly

variable {σ α β : Type}

/-- What a run does with instances. -/
inductive Event (σ : Type) where
  /-- A factory ran for an empty cell. -/
  | made (cell : Nat) (ending : Ending (Implementation σ))
  /-- An instance is called in the place of a contract. -/
  | served (contract : Contract) (implementation : Implementation σ) (method : Signature)
      (arguments : List Json)
  /-- A placeholder is called. -/
  | lacking (interface : String) (placeholder : Contract)
  /-- A call has no route. -/
  | refused (request : Call) (error : Error)

/-- A run that lists its events, from the first to the last. -/
abbrev Watched (σ α : Type) := World σ → Option (Ending α × World σ × List (Event σ))

/-- A run with another result. -/
def Run.map (function : α → β) (run : Run σ α) : Run σ β := fun world =>
  (run world).map fun (ending, after) => (ending.map function, after)

namespace Watched

/-- The run without its events. -/
def forget (watched : Watched σ α) : Run σ α := fun world =>
  (watched world).map fun (ending, after, _) => (ending, after)

/-- A run without events. -/
def silent (run : Run σ α) : Watched σ α := fun world =>
  (run world).map fun (ending, after) => (ending, after, [])

/-- A run behind events that came earlier. -/
def following (earlier : List (Event σ)) (watched : Watched σ α) : Watched σ α := fun world =>
  (watched world).map fun (ending, after, events) => (ending, after, earlier ++ events)

/-- A run with an event that tells how it ended. -/
def reporting (event : Ending α → Event σ) (watched : Watched σ α) : Watched σ α := fun world =>
  (watched world).map fun (ending, after, events) => (ending, after, events ++ [event ending])

/-- A run with another result. -/
def map (function : α → β) (watched : Watched σ α) : Watched σ β := fun world =>
  (watched world).map fun (ending, after, events) => (ending.map function, after, events)

/-- Run a second stage on the result of a first one. -/
def bind (first : Watched σ α) (second : α → Watched σ β) : Watched σ β := fun world =>
  match first world with
  | none => none
  | some (.value result, middle, events) => following events (second result) middle
  | some (.failure error, after, events) => some (.failure error, after, events)
  | some (.abort message, after, events) => some (.abort message, after, events)

@[simp]
theorem forget_silent (run : Run σ α) : (silent run).forget = run := by
  funext world
  rw [forget, silent, Option.map_map]
  exact Option.map_id_fun' (α := Ending α × World σ) ▸ rfl

@[simp]
theorem forget_following (earlier : List (Event σ)) (watched : Watched σ α) :
    (following earlier watched).forget = watched.forget := by
  funext world
  rw [forget, following, Option.map_map]
  rfl

@[simp]
theorem forget_reporting (event : Ending α → Event σ) (watched : Watched σ α) :
    (reporting event watched).forget = watched.forget := by
  funext world
  rw [forget, reporting, Option.map_map]
  rfl

@[simp]
theorem forget_map (function : α → β) (watched : Watched σ α) :
    (watched.map function).forget = watched.forget.map function := by
  funext world
  rw [forget, map, Option.map_map, Run.map, forget, Option.map_map]
  rfl

@[simp]
theorem forget_bind (first : Watched σ α) (second : α → Watched σ β) :
    (first.bind second).forget = first.forget.bind fun result => (second result).forget := by
  funext world
  rw [forget, bind, Run.bind, forget]
  rcases first world with _ | ⟨result | error | message, middle, events⟩
  · rfl
  · exact congrFun (forget_following events (second result)) middle
  · rfl
  · rfl

theorem map_bind {γ : Type} (function : β → γ) (first : Watched σ α)
    (second : α → Watched σ β) :
    (first.bind second).map function = first.bind fun result => (second result).map function := by
  funext world
  rw [map, bind, bind]
  rcases first world with _ | ⟨result | error | message, middle, events⟩
  · rfl
  · simp only [following, map, Option.map_map]
    rfl
  · rfl
  · rfl

theorem map_of_ends {watched : Watched σ α} {world after : World σ}
    {ending : Ending α} {events : List (Event σ)} (function : α → β)
    (ran : watched world = some (ending, after, events)) :
    watched.map function world = some (ending.map function, after, events) := by
  rw [map, ran]
  rfl

/-! ### Endings -/

theorem exists_events {watched : Watched σ α} {world after : World σ} {ending : Ending α}
    (ends : watched.forget world = some (ending, after)) :
    ∃ events, watched world = some (ending, after, events) := by
  obtain ⟨⟨ended, reached, events⟩, ran, same⟩ := Option.map_eq_some_iff.mp ends
  cases same
  exact ⟨events, ran⟩

theorem forget_of_ends {watched : Watched σ α} {world after : World σ} {ending : Ending α}
    {events : List (Event σ)} (ran : watched world = some (ending, after, events)) :
    watched.forget world = some (ending, after) := by
  rw [forget, ran]
  rfl

theorem ends_of_map {function : α → β} {watched : Watched σ α} {world after : World σ}
    {ending : Ending β} {events : List (Event σ)}
    (ran : watched.map function world = some (ending, after, events)) :
    ∃ ended, watched world = some (ended, after, events) ∧ ending = ended.map function := by
  obtain ⟨⟨ended, _, _⟩, inner, same⟩ := Option.map_eq_some_iff.mp ran
  cases same
  exact ⟨ended, inner, rfl⟩

theorem ends_of_following {earlier events : List (Event σ)} {watched : Watched σ α}
    {world after : World σ} {ending : Ending α}
    (ran : following earlier watched world = some (ending, after, events)) :
    ∃ later, watched world = some (ending, after, later) ∧ events = earlier ++ later := by
  obtain ⟨⟨_, _, later⟩, inner, same⟩ := Option.map_eq_some_iff.mp ran
  cases same
  exact ⟨later, inner, rfl⟩

theorem ends_of_reporting {event : Ending α → Event σ} {watched : Watched σ α}
    {world after : World σ} {ending : Ending α} {events : List (Event σ)}
    (ran : reporting event watched world = some (ending, after, events)) :
    ∃ inside, watched world = some (ending, after, inside) ∧ events = inside ++ [event ending] := by
  obtain ⟨⟨_, _, inside⟩, inner, same⟩ := Option.map_eq_some_iff.mp ran
  cases same
  exact ⟨inside, inner, rfl⟩

/-- A sequence of two stages ends with its second stage, or early with its first one. -/
theorem bind_cases {first : Watched σ α} {second : α → Watched σ β} {world after : World σ}
    {ending : Ending β} {events : List (Event σ)}
    (ran : first.bind second world = some (ending, after, events)) :
    (∃ result middle earlier later,
        first world = some (.value result, middle, earlier) ∧
          second result middle = some (ending, after, later) ∧ events = earlier ++ later) ∨
      (∃ error, first world = some (.failure error, after, events) ∧ ending = .failure error) ∨
      ∃ message, first world = some (.abort message, after, events) ∧ ending = .abort message := by
  rw [bind] at ran
  cases began : first world with
  | none => simp [began] at ran
  | some reached =>
      obtain ⟨ended, middle, earlier⟩ := reached
      rw [began] at ran
      cases ended with
      | value result =>
          obtain ⟨later, continued, rfl⟩ := ends_of_following ran
          exact .inl ⟨result, middle, earlier, later, rfl, continued, rfl⟩
      | failure error =>
          cases ran
          exact .inr (.inl ⟨error, rfl, rfl⟩)
      | abort message =>
          cases ran
          exact .inr (.inr ⟨message, rfl, rfl⟩)

end Watched

/-- Run a program and list the events of the calls it makes. -/
def Program.watch (answer : Call → Watched σ Json) (guards : List Guard) :
    Program σ α → Watched σ α
  | .finish ending => fun world => some (ending, world.releaseAll guards, [])
  | .current next => fun world =>
      (next world.surroundings.current?).watch answer guards world
  | .prepare interface method next => fun world =>
      let (invocation, world) := world.prepare interface method
      (next invocation).watch answer guards world
  | .enter invocation next => fun world =>
      let (guard, world) := world.install (.active invocation)
      next.watch answer (guard :: guards) world
  | .suppress next => fun world =>
      let (guard, world) := world.install .hidden
      next.watch answer (guard :: guards) world
  | .release next => fun world =>
      match guards with
      | [] => next.watch answer [] world
      | guard :: others => next.watch answer others (world.release guard)
  | .read next => fun world => (next world.state).watch answer guards world
  | .write state next => fun world => next.watch answer guards { world with state }
  | .call request next => fun world =>
      match answer request world with
      | none => none
      | some (ending, world, events) =>
          Watched.following events ((next ending).watch answer guards) world

theorem Program.forget_watch (answer : Call → Watched σ Json) (guards : List Guard)
    (program : Program σ α) :
    (program.watch answer guards).forget =
      program.run (fun request => (answer request).forget) guards := by
  funext world
  induction program generalizing guards world with
  | finish ending => rfl
  | current next ih => exact ih _ guards world
  | prepare interface method next ih => exact ih _ guards _
  | enter invocation next ih => exact ih _ _
  | suppress next ih => exact ih _ _
  | release next ih =>
      cases guards with
      | nil => exact ih [] world
      | cons guard others => exact ih others _
  | read next ih => exact ih _ guards world
  | write state next ih => exact ih guards _
  | call request next ih =>
      simp only [run, Watched.forget, watch]
      rcases answer request world with _ | ⟨ended, middle, events⟩
      · rfl
      · have forgotten := congrFun (Watched.forget_following events
          ((next ended).watch answer guards)) middle
        exact forgotten.trans (ih ended guards middle)

namespace Fragment

/-- Make the instance of a cell and list the run of the factory, unless the instance exists. -/
def watchMaterialize (answer : Call → Watched σ Json) (contract : Contract) (source : Deferred σ) :
    Watched σ (Implementation σ) := fun world =>
  match world.instances.content? source.cell with
  | some implementation => some (.value implementation, world, [])
  | none =>
      Watched.bind (Watched.reporting (.made source.cell) (source.factory.watch answer []))
        (fun implementation => .silent (keep contract source implementation))
        (world.report [.materializing source.typeName contract.name])

/-- Find the instance of a fragment. -/
def watchImplementation (answer : Call → Watched σ Json) (fragment : Fragment σ) :
    Watched σ (Option (Implementation σ)) :=
  match fragment.binding with
  | none => .silent (.stop (.value none))
  | some (.eager implementation) => .silent (.stop (.value (some implementation)))
  | some (.deferred source) =>
      (watchMaterialize answer fragment.contract source).bind fun implementation =>
        .silent (.stop (.value (some implementation)))

/-- Let an instance work in the place of the contract, or report that there is none. -/
def watchServe (answer : Call → Watched σ Json) (fragment : Fragment σ) (interface : String)
    (method : Signature) (arguments : List Json) : Option (Implementation σ) → Watched σ Json
  | some implementation =>
      Watched.following [.served fragment.contract implementation method arguments]
        ((implementation.invoke method arguments).watch answer [])
  | none =>
      Watched.following [.lacking interface fragment.contract]
        (.silent (.stop (.failure (.noImplementation interface fragment.contract))))

/-- Call a method of a fragment and list what happens. -/
def watchInvoke (answer : Call → Watched σ Json) (fragment : Fragment σ) (interface : String)
    (method : Signature) (arguments : List Json) : Watched σ Json :=
  (fragment.watchImplementation answer).bind (fragment.watchServe answer interface method arguments)

theorem forget_watchMaterialize (answer : Call → Watched σ Json) (contract : Contract)
    (source : Deferred σ) :
    (watchMaterialize answer contract source).forget =
      materialize (fun request => (answer request).forget) contract source := by
  funext world
  rw [materialize_eq, Watched.forget, watchMaterialize]
  cases world.instances.content? source.cell with
  | some implementation => rfl
  | none =>
      have forgotten := Watched.forget_bind
        (Watched.reporting (.made source.cell) (source.factory.watch answer []))
        (fun implementation => .silent (keep contract source implementation))
      simp only [Watched.forget_reporting, Watched.forget_silent, Program.forget_watch] at forgotten
      exact congrFun forgotten _

theorem forget_watchImplementation (answer : Call → Watched σ Json) (fragment : Fragment σ) :
    (fragment.watchImplementation answer).forget =
      fragment.implementation fun request => (answer request).forget := by
  rw [implementation_eq, watchImplementation]
  cases fragment.binding with
  | none => exact Watched.forget_silent _
  | some binding =>
      cases binding with
      | eager implementation => exact Watched.forget_silent _
      | deferred source =>
          simp only [Watched.forget_bind, Watched.forget_silent, forget_watchMaterialize]

theorem forget_watchServe (answer : Call → Watched σ Json) (fragment : Fragment σ)
    (interface : String) (method : Signature) (arguments : List Json)
    (found : Option (Implementation σ)) :
    (fragment.watchServe answer interface method arguments found).forget =
      fragment.serve (fun request => (answer request).forget) interface method arguments found := by
  cases found with
  | none => rw [watchServe, Watched.forget_following, Watched.forget_silent, serve]
  | some implementation =>
      rw [watchServe, Watched.forget_following, Program.forget_watch, serve]

theorem forget_watchInvoke (answer : Call → Watched σ Json) (fragment : Fragment σ)
    (interface : String) (method : Signature) (arguments : List Json) :
    (fragment.watchInvoke answer interface method arguments).forget =
      fragment.invoke (fun request => (answer request).forget) interface method arguments := by
  rw [invoke_eq, watchInvoke, Watched.forget_bind, forget_watchImplementation]
  simp only [forget_watchServe]

end Fragment

/-- Call a repository and list what happens. -/
def Repository.watch (answer : Call → Watched σ Json) (repository : Repository σ) (request : Call) :
    Watched σ Json := fun world =>
  let entered := world.report (request.style.notices repository.interface.name request.method.display)
  match repository.target request.method with
  | .error error => some (.failure error, entered, [.refused request error])
  | .ok fragment =>
      let (shown, opened) := repository.openInvocation request.method entered
      (fragment.watchInvoke answer repository.interface.name request.method request.arguments
          { opened with surroundings := request.style.enter shown opened.surroundings }).map
        fun (ending, inner, events) =>
          (ending,
            { inner with
              surroundings := request.style.leave opened.surroundings inner.surroundings },
            events)

theorem Repository.forget_watch (answer : Call → Watched σ Json) (repository : Repository σ)
    (request : Call) :
    (repository.watch answer request).forget =
      repository.perform (fun request => (answer request).forget) request.style request.method
        request.arguments := by
  funext world
  rw [perform_eq, Watched.forget, watch]
  cases repository.target request.method with
  | error error => rfl
  | ok fragment =>
      simp only [← Fragment.forget_watchInvoke, Watched.forget, Option.map_map]
      rfl

/-- Watch a call that nests other calls at most to a depth. -/
def Directory.watch (directory : Directory σ) : Nat → Call → Watched σ Json
  | 0, _ => fun _ => none
  | depth + 1, request => (directory request.repository).watch (directory.watch depth) request

theorem Directory.forget_watch (directory : Directory σ) (depth : Nat) (request : Call) :
    (directory.watch depth request).forget = directory.answer depth request := by
  induction depth generalizing request with
  | zero => rfl
  | succ depth ih =>
      rw [watch, Repository.forget_watch, answer]
      simp only [ih]

theorem Directory.forget_comp_watch (directory : Directory σ) (depth : Nat) :
    (fun request => (directory.watch depth request).forget) = directory.answer depth :=
  funext (directory.forget_watch depth)

end FragmentAssembly
