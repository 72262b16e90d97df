import FragmentAssembly.Assembler
import FragmentAssembly.Proofs.Events.Laws

/-!
# Sessions

An application assembles fragments, compositions and repositories, one operation after the other, and
runs programs that call the repositories. A session is what it has at hand after some of these steps,
together with the events of all runs so far.
-/

namespace FragmentAssembly

variable {σ : Type}

/-- Watch a call that nests other calls at most to a depth. Calls beyond it are cut off: they end as
given, or the run does not end. -/
def Directory.watchWithin (directory : Directory σ) (cutOff : Call → Option (Ending Json)) :
    Nat → Call → Watched σ Json
  | 0, request => fun world => (cutOff request).map fun ending => (ending, world, [])
  | depth + 1, request =>
      (directory request.repository).watch (directory.watchWithin cutOff depth) request

/-- Calls obey every law, wherever they are cut off. -/
theorem Directory.obeys_watchWithin {directory : Directory σ}
    {reached : Signature → Fragment σ → Prop}
    {relation : World σ → List (Event σ) → World σ → Prop} (law : Law directory reached relation)
    (cutOff : Call → Option (Ending Json)) (depth : Nat) (request : Call) :
    (directory.watchWithin cutOff depth request).Obeys relation := by
  induction depth generalizing request with
  | zero =>
      intro world ending after events ran
      obtain ⟨ended, -, same⟩ := Option.map_eq_some_iff.mp ran
      cases same
      exact law.quiet rfl
  | succ depth ih => exact Repository.obeys_watch law ih request

theorem Directory.mem_of_target {repositories : List (String × Repository σ)} {name : String}
    {method : Signature} {fragment : Fragment σ}
    (routed : (Directory.ofList repositories name).target method = .ok fragment) :
    (name, Directory.ofList repositories name) ∈ repositories := by
  cases found : repositories.lookup name with
  | none =>
      have unlisted : Directory.ofList repositories name =
          .ofComposition (.named name "" "") .empty false := by
        rw [Directory.ofList, found, Option.getD_none]
      rw [unlisted] at routed
      cases routed
  | some repository =>
      have listed : Directory.ofList repositories name = repository := by
        rw [Directory.ofList, found, Option.getD_some]
      obtain ⟨front, back, split, -⟩ := List.lookup_eq_some_iff.mp found
      rw [listed, split]
      simp

/-- No cell changes its content. More cells may be handed out. -/
structure World.KeepsCells (before after : World σ) : Prop where
  /-- The contents are the same. -/
  contents : after.instances.content? = before.instances.content?
  /-- Cells that were handed out stay so. -/
  handed : before.instances.next ≤ after.instances.next

/-- What an application has at hand, and what happened so far. -/
structure Session (σ : Type) where
  /-- The world. -/
  world : World σ
  /-- The fragments. -/
  fragments : List (Fragment σ)
  /-- The compositions. -/
  compositions : List (Composition σ)
  /-- The repositories, by name. -/
  repositories : List (String × Repository σ)
  /-- The events of all runs, from the first to the last. -/
  events : List (Event σ)

namespace Session

/-- The session of an application that has done nothing yet. -/
def start (state : σ) : Session σ where
  world := .initial state
  fragments := []
  compositions := []
  repositories := []
  events := []

/-- The session in another world. -/
def inWorld (session : Session σ) (world : World σ) : Session σ :=
  { session with world }

/-- The session with one more fragment, in the world that it was made in. -/
def withFragment (session : Session σ) (made : Fragment σ × World σ) : Session σ :=
  { session with world := made.2, fragments := made.1 :: session.fragments }

/-- The session with one more composition, in the world that it was made in. -/
def withComposition (session : Session σ) (made : Composition σ × World σ) : Session σ :=
  { session with world := made.2, compositions := made.1 :: session.compositions }

/-- The session with one more repository, in the world that it was made in. An older repository of its
name is called no more. -/
def withRepository (session : Session σ) (name : String) (made : Repository σ × World σ) : Session σ :=
  { session with world := made.2, repositories := (name, made.1) :: session.repositories }

/-- The session after a run. -/
def afterRun (session : Session σ) (world : World σ) (events : List (Event σ)) : Session σ :=
  { session with world, events := session.events ++ events }

/-- The repositories that a program can call. -/
def directory (session : Session σ) : Directory σ :=
  .ofList session.repositories

/-- One step of an application. -/
inductive Step (session : Session σ) : Session σ → Prop where
  /-- Something happens that touches no instance. -/
  | elsewhere {after : World σ} (kept : session.world.KeepsCells after) :
      Step session (session.inWorld after)
  /-- A placeholder is made. -/
  | placeholder (contract : Contract) :
      Step session (session.withFragment (.placeholder contract, session.world))
  /-- A fragment is made from an instance, for a new contract or for that of another fragment. -/
  | implemented {contract : Contract} {implementation : Implementation σ} {fragment : Fragment σ}
      (made : Fragment.implemented contract implementation = .ok fragment) :
      Step session (session.withFragment (fragment, session.world))
  /-- A fragment is made from a factory. -/
  | defer (contract : Contract) (typeName : String) (factory : Factory σ) :
      Step session (session.withFragment (session.world.defer contract typeName factory))
  /-- A contract is resolved. -/
  | resolve (resolver : Resolver σ) (contract : Contract) (scope : SearchScope)
      (interface : Interface) :
      Step session (session.withFragment (session.world.resolve resolver contract scope interface))
  /-- A composition is begun. -/
  | empty : Step session (session.withComposition (.empty, session.world))
  /-- Fragments are appended to a composition. -/
  | append {composition : Composition σ} {fragments : List (Fragment σ)}
      (present : composition ∈ session.compositions)
      (known : ∀ fragment ∈ fragments, fragment ∈ session.fragments) :
      Step session (session.withComposition (session.world.appendAll composition fragments))
  /-- A composition is attached to an interface. -/
  | attach {composition : Composition σ} (present : composition ∈ session.compositions)
      (interface : String) :
      Step session (session.withComposition (composition.attach interface, session.world))
  /-- The placeholders of a composition are filled. -/
  | bind {composition : Composition σ} (present : composition ∈ session.compositions)
      (resolver : Resolver σ) (scope : SearchScope) (interface : Interface) :
      Step session (session.withComposition (session.world.bind resolver composition scope interface))
  /-- The fragments of an interface are composed on top of a base. -/
  | compose {base : Fragment σ} (known : base ∈ session.fragments) (resolver : Resolver σ)
      (interface : Interface) (scope : SearchScope) :
      Step session (session.withComposition (session.world.compose resolver interface scope base))
  /-- An assembler creates a repository on top of a base. -/
  | create {base : Fragment σ} (known : base ∈ session.fragments) {assembler : Assembler σ}
      {interface : Interface} {repository : Repository σ} {after : World σ}
      (created : session.world.create assembler interface base = (.ok repository, after))
      (name : String) : Step session (session.withRepository name (repository, after))
  /-- A repository is made from a composition. -/
  | serve {composition : Composition σ} (present : composition ∈ session.compositions)
      (interface : Interface) (exposesMetadata : Bool) (name : String) :
      Step session (session.withRepository name
        (.ofComposition interface composition exposesMetadata, session.world))
  /-- A fragment is taken out of a composition. -/
  | take {composition : Composition σ} {fragment : Fragment σ}
      (present : composition ∈ session.compositions) (slot : fragment ∈ composition.slots) :
      Step session (session.withFragment (fragment, session.world))
  /-- The composition of a repository is looked at. -/
  | inspect {name : String} {repository : Repository σ}
      (listed : (name, repository) ∈ session.repositories) :
      Step session (session.withComposition (repository.composition, session.world))
  /-- A fragment is asked for its instance. -/
  | fetch {fragment : Fragment σ} (known : fragment ∈ session.fragments)
      {cutOff : Call → Option (Ending Json)} {depth : Nat}
      {ending : Ending (Option (Implementation σ))} {after : World σ} {events : List (Event σ)}
      (ran : fragment.watchImplementation (session.directory.watchWithin cutOff depth) session.world =
        some (ending, after, events)) : Step session (session.afterRun after events)
  /-- A program runs, and with it all calls that it makes. -/
  | run {α : Type} {program : Program σ α} {cutOff : Call → Option (Ending Json)} {depth : Nat}
      {ending : Ending α} {after : World σ} {events : List (Event σ)}
      (ran : program.watch (session.directory.watchWithin cutOff depth) [] session.world =
        some (ending, after, events)) : Step session (session.afterRun after events)

/-- The sessions that an application can get to. -/
inductive Reachable (state : σ) : Session σ → Prop where
  | start : Reachable state (start state)
  | step {session after : Session σ} (reachable : Reachable state session)
      (step : Step session after) : Reachable state after

/-- Calling a method of a fragment without a repository is no step of its own: the fragment is asked for
its instance, and what the instance does is run. -/
theorem Reachable.invoke {state : σ} {session : Session σ} (reachable : Reachable state session)
    {fragment : Fragment σ} (known : fragment ∈ session.fragments)
    {cutOff : Call → Option (Ending Json)} {depth : Nat} {interface : String} {method : Signature}
    {arguments : List Json} {ending : Ending Json} {after : World σ} {events : List (Event σ)}
    (ran : fragment.watchInvoke (session.directory.watchWithin cutOff depth) interface method arguments
      session.world = some (ending, after, events)) :
    ∃ reported, Reachable state (session.afterRun after reported) := by
  rcases Watched.bind_cases ran with
    ⟨found, middle, earlier, later, fetched, served, -⟩ | ⟨error, failed, -⟩ | ⟨message, aborted, -⟩
  · have asked := reachable.step (.fetch known fetched)
    cases found with
    | none =>
        obtain ⟨stopped, quiet, -⟩ := Watched.ends_of_following served
        cases quiet
        exact ⟨earlier, asked⟩
    | some implementation =>
        obtain ⟨inside, worked, -⟩ := Watched.ends_of_following served
        have called := asked.step (.run worked)
        rw [afterRun, afterRun, List.append_assoc] at called
        exact ⟨earlier ++ inside, called⟩
  · exact ⟨events, reachable.step (.fetch known failed)⟩
  · exact ⟨events, reachable.step (.fetch known aborted)⟩

/-- A copy of the fragment is at hand, by itself or in a slot. -/
def Knows (session : Session σ) (fragment : Fragment σ) : Prop :=
  fragment ∈ session.fragments ∨
    (∃ composition ∈ session.compositions, fragment ∈ composition.slots) ∨
    ∃ entry ∈ session.repositories, fragment ∈ entry.2.composition.slots

/-- The repository is at hand. -/
def Hosts (session : Session σ) (repository : Repository σ) : Prop :=
  ∃ name, (name, repository) ∈ session.repositories

end Session
end FragmentAssembly
