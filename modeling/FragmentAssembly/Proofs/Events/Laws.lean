import FragmentAssembly.Proofs.Events.Watching

/-!
# Laws of watched runs

A law relates the world before a run, its events, and the world after it. A law that holds for each
single thing that can happen to an instance, and for runs that follow each other, holds for every run:
for programs, for uses of fragments, and for calls, however deep they nest.
-/

namespace FragmentAssembly

variable {σ α β : Type}

/-- The instance that a fragment works with exists. -/
def World.Holds (world : World σ) (fragment : Fragment σ) (implementation : Implementation σ) : Prop :=
  fragment.binding = some (.eager implementation) ∨
    ∃ source, fragment.binding = some (.deferred source) ∧
      world.instances.content? source.cell = some implementation

namespace Fragment

/-- A factory ended without an instance that satisfies the contract, and what it is needed for ends so
because of that. -/
inductive Rejected (contract : Contract) : Ending (Implementation σ) → Ending α → Prop where
  /-- The error is that of the factory. -/
  | failure (error : Error) : Rejected contract (.failure error) (.failure error)
  /-- The factory was aborted. -/
  | abort (message : String) : Rejected contract (.abort message) (.abort message)
  /-- The instance is rejected. -/
  | unsatisfied {implementation : Implementation σ}
      (lacks : implementation.satisfies contract = false) :
      Rejected contract (.value implementation) (.failure (implementation.unsatisfied contract))

theorem watchMaterialize_of_full {answer : Call → Watched σ Json} {contract : Contract}
    {source : Deferred σ} {world : World σ} {implementation : Implementation σ}
    (full : world.instances.content? source.cell = some implementation) :
    watchMaterialize answer contract source world = some (.value implementation, world, []) := by
  rw [watchMaterialize, full]

/-- For an empty cell the factory runs once. Then its instance is kept, or there is none to keep. -/
theorem watchMaterialize_of_empty {answer : Call → Watched σ Json} {contract : Contract}
    {source : Deferred σ} {world after : World σ} {ending : Ending (Implementation σ)}
    {events : List (Event σ)} (empty : world.instances.content? source.cell = none)
    (ran : watchMaterialize answer contract source world = some (ending, after, events)) :
    ∃ made middle inside,
      source.factory.watch answer []
          (world.report [.materializing source.typeName contract.name]) =
        some (made, middle, inside) ∧
      events = inside ++ [.made source.cell made] ∧
      ((∃ implementation : Implementation σ, made = .value implementation ∧
          implementation.satisfies contract = true ∧ ending = .value implementation ∧
          after = middle.fill source.cell implementation) ∨
        Rejected contract made ending ∧ after = middle) := by
  rw [watchMaterialize, empty] at ran
  rcases Watched.bind_cases ran with
    ⟨implementation, middle, earlier, later, first, second, rfl⟩ | ⟨error, first, rfl⟩ |
      ⟨message, first, rfl⟩
  · obtain ⟨inside, run, rfl⟩ := Watched.ends_of_reporting first
    refine ⟨.value implementation, middle, inside, run, ?_⟩
    rw [Watched.silent, keep] at second
    split at second
    · rename_i satisfies
      cases second
      exact ⟨List.append_nil _, .inl ⟨implementation, rfl, satisfies, rfl, rfl⟩⟩
    · rename_i lacks
      cases second
      exact ⟨List.append_nil _, .inr ⟨.unsatisfied (by simpa using lacks), rfl⟩⟩
  · obtain ⟨inside, run, rfl⟩ := Watched.ends_of_reporting first
    exact ⟨.failure error, after, inside, run, rfl, .inr ⟨.failure error, rfl⟩⟩
  · obtain ⟨inside, run, rfl⟩ := Watched.ends_of_reporting first
    exact ⟨.abort message, after, inside, run, rfl, .inr ⟨.abort message, rfl⟩⟩

end Fragment

/-- A relation that holds for each thing that can happen to instances. A call reaches fragments by
methods, and it reaches no others than those given. -/
structure Law (directory : Directory σ) (reached : Signature → Fragment σ → Prop)
    (relation : World σ → List (Event σ) → World σ → Prop) : Prop where
  /-- A run without events changes no instances. -/
  quiet : ∀ {before after : World σ}, after.instances = before.instances → relation before [] after
  /-- One run follows another. -/
  trans : ∀ {before middle after : World σ} {events later : List (Event σ)},
    relation before events middle → relation middle later after →
      relation before (events ++ later) after
  /-- A call has a route. -/
  routed : ∀ {request : Call} {fragment : Fragment σ},
    (directory request.repository).target request.method = .ok fragment →
      reached request.method fragment
  /-- A call has no route. -/
  refused : ∀ {request : Call} {error : Error} (world : World σ),
    (directory request.repository).target request.method = .error error →
      relation world [.refused request error] world
  /-- A placeholder is called. -/
  lacking : ∀ {method : Signature} {fragment : Fragment σ} (world : World σ) (interface : String),
    reached method fragment → fragment.binding = none →
      relation world [.lacking interface fragment.contract] world
  /-- An instance is called. -/
  served : ∀ {method : Signature} {fragment : Fragment σ} {world : World σ}
    {implementation : Implementation σ} (arguments : List Json),
    reached method fragment → world.Holds fragment implementation →
      relation world [.served fragment.contract implementation method arguments] world
  /-- A factory ran for nothing. -/
  failed : ∀ {method : Signature} {fragment : Fragment σ} {source : Deferred σ}
    {before after : World σ} {events : List (Event σ)} {made ending : Ending (Implementation σ)},
    reached method fragment → fragment.binding = some (.deferred source) →
      before.instances.content? source.cell = none → relation before events after →
        Fragment.Rejected fragment.contract made ending →
          relation before (events ++ [.made source.cell made]) after
  /-- A factory made an instance that is kept. -/
  kept : ∀ {method : Signature} {fragment : Fragment σ} {source : Deferred σ}
    {before after : World σ} {events : List (Event σ)} {implementation : Implementation σ},
    reached method fragment → fragment.binding = some (.deferred source) →
      before.instances.content? source.cell = none → relation before events after →
        implementation.satisfies fragment.contract = true →
          relation before (events ++ [.made source.cell (.value implementation)])
            (after.fill source.cell implementation)

theorem Law.of_events {directory : Directory σ} {reached : Signature → Fragment σ → Prop}
    {allowed : Event σ → Prop}
    (routed : ∀ {request : Call} {fragment : Fragment σ},
      (directory request.repository).target request.method = .ok fragment →
        reached request.method fragment)
    (refused : ∀ {request : Call} {error : Error},
      (directory request.repository).target request.method = .error error →
        allowed (.refused request error))
    (lacking : ∀ {method : Signature} {fragment : Fragment σ} (interface : String),
      reached method fragment → fragment.binding = none →
        allowed (.lacking interface fragment.contract))
    (served : ∀ {method : Signature} {fragment : Fragment σ} {world : World σ}
      {implementation : Implementation σ} (arguments : List Json),
      reached method fragment → world.Holds fragment implementation →
        allowed (.served fragment.contract implementation method arguments))
    (made : ∀ cell ending, allowed (.made cell ending)) :
    Law directory reached fun _ events _ => ∀ event ∈ events, allowed event where
  quiet _ := by simp
  trans first second := by
    rw [List.forall_mem_append]
    exact ⟨first, second⟩
  routed := routed
  refused world unrouted := by
    rw [List.forall_mem_singleton]
    exact refused unrouted
  lacking world interface reaches missing := by
    rw [List.forall_mem_singleton]
    exact lacking interface reaches missing
  served arguments reaches holds := by
    rw [List.forall_mem_singleton]
    exact served arguments reaches holds
  failed _ _ _ inside _ := by
    rw [List.forall_mem_append, List.forall_mem_singleton]
    exact ⟨inside, made _ _⟩
  kept _ _ _ inside _ := by
    rw [List.forall_mem_append, List.forall_mem_singleton]
    exact ⟨inside, made _ _⟩

/-- However the run ends, its worlds and events are related. -/
def Watched.Obeys (relation : World σ → List (Event σ) → World σ → Prop) (watched : Watched σ α) :
    Prop :=
  ∀ ⦃world ending after events⦄, watched world = some (ending, after, events) →
    relation world events after

/-- Two worlds have the same instances, and the application is in the same state. -/
structure World.Alike (left right : World σ) : Prop where
  /-- The instances are the same. -/
  instances : left.instances = right.instances
  /-- The state is the same. -/
  state : left.state = right.state

theorem Repository.alike_openInvocation (repository : Repository σ) (method : Signature)
    (world : World σ) : (repository.openInvocation method world).2.Alike world := by
  rcases repository.openInvocation_cases method world with ⟨-, same⟩ | ⟨-, made⟩
  · rw [same]
    exact ⟨rfl, rfl⟩
  · rw [made]
    exact ⟨rfl, rfl⟩

/-- A call with a route calls the fragment, in another place but on the same instances and state. -/
theorem Repository.watch_of_target_ok {answer : Call → Watched σ Json} {repository : Repository σ}
    {request : Call} {fragment : Fragment σ} {world after : World σ} {ending : Ending Json}
    {events : List (Event σ)} (routed : repository.target request.method = .ok fragment)
    (ran : repository.watch answer request world = some (ending, after, events)) :
    ∃ entered left, entered.Alike world ∧ after.Alike left ∧
      fragment.watchInvoke answer repository.interface.name request.method request.arguments entered =
        some (ending, left, events) := by
  have opened := repository.alike_openInvocation request.method
    (world.report (request.style.notices repository.interface.name request.method.display))
  simp only [watch, routed] at ran
  obtain ⟨⟨_, left, _⟩, invoked, same⟩ := Option.map_eq_some_iff.mp ran
  cases same
  refine ⟨_, left, ?_, ⟨rfl, rfl⟩, invoked⟩
  exact ⟨opened.instances, opened.state⟩

section Runs

variable {directory : Directory σ} {reached : Signature → Fragment σ → Prop}
  {relation : World σ → List (Event σ) → World σ → Prop} (law : Law directory reached relation)

include law

/-- Worlds with the same instances are as good as the ends of a run. -/
theorem Law.moved {before first last after : World σ} {events : List (Event σ)}
    (related : relation first events last) (started : first.instances = before.instances)
    (ended : after.instances = last.instances) : relation before events after := by
  have moved := law.trans (law.quiet started) (law.trans related (law.quiet ended))
  rwa [List.append_nil] at moved

theorem Watched.obeys_stop (ending : Ending α) : (silent (.stop ending)).Obeys relation := by
  intro world ended after events ran
  cases ran
  exact law.quiet rfl

/-- Two stages obey a law if the second one does where the first one leads. -/
theorem Watched.Obeys.bind {first : Watched σ α} {second : α → Watched σ β}
    (obeys : first.Obeys relation)
    (continues : ∀ {world result middle events}, first world = some (.value result, middle, events) →
      ∀ {ending after later}, second result middle = some (ending, after, later) →
        relation middle later after) :
    (first.bind second).Obeys relation := by
  intro world ending after events ran
  rcases bind_cases ran with
    ⟨result, middle, earlier, later, began, continued, rfl⟩ | ⟨error, began, -⟩ | ⟨message, began, -⟩
  · exact law.trans (obeys began) (continues began continued)
  · exact obeys began
  · exact obeys began

variable {answer : Call → Watched σ Json} (answers : ∀ request, (answer request).Obeys relation)

include answers

theorem Program.obeys_watch (program : Program σ α) (guards : List Guard) :
    (program.watch answer guards).Obeys relation := by
  intro world ending after events ran
  induction program generalizing guards world events with
  | finish ended =>
      cases ran
      exact law.quiet rfl
  | current next ih => exact ih _ guards ran
  | prepare interface method next ih =>
      have continued := ih _ guards ran
      exact law.moved continued rfl rfl
  | enter invocation next ih =>
      have continued := ih (⟨world.surroundings.thread⟩ :: guards) ran
      exact law.moved continued rfl rfl
  | suppress next ih =>
      have continued := ih (⟨world.surroundings.thread⟩ :: guards) ran
      exact law.moved continued rfl rfl
  | release next ih =>
      cases guards with
      | nil => exact ih [] ran
      | cons guard others =>
          have continued := ih others ran
          exact law.moved continued rfl rfl
  | read next ih => exact ih _ guards ran
  | write state next ih =>
      have continued := ih guards ran
      exact law.moved continued rfl rfl
  | call request next ih =>
      simp only [watch] at ran
      cases called : answer request world with
      | none => simp [called] at ran
      | some result =>
          obtain ⟨ended, middle, earlier⟩ := result
          rw [called] at ran
          obtain ⟨later, continued, rfl⟩ := Watched.ends_of_following ran
          exact law.trans (answers request called) (ih ended guards continued)

namespace Fragment

variable {method : Signature} {fragment : Fragment σ} (reaches : reached method fragment)

include reaches

theorem obeys_watchMaterialize {source : Deferred σ}
    (bound : fragment.binding = some (.deferred source)) :
    (watchMaterialize answer fragment.contract source).Obeys relation := by
  intro world ending after events ran
  cases content : world.instances.content? source.cell with
  | some implementation =>
      rw [watchMaterialize_of_full content] at ran
      cases ran
      exact law.quiet rfl
  | none =>
      obtain ⟨made, middle, inside, run, rfl, ended⟩ := watchMaterialize_of_empty content ran
      have before : relation world inside middle :=
        law.moved (Program.obeys_watch law answers source.factory [] run) rfl rfl
      rcases ended with ⟨implementation, rfl, satisfies, -, rfl⟩ | ⟨rejected, rfl⟩
      · exact law.kept reaches bound content before satisfies
      · exact law.failed reaches bound content before rejected

theorem obeys_watchImplementation : (fragment.watchImplementation answer).Obeys relation := by
  rw [watchImplementation]
  split
  · exact Watched.obeys_stop law _
  · exact Watched.obeys_stop law _
  · rename_i source bound
    have made := obeys_watchMaterialize law answers reaches bound
    refine made.bind law ?_
    intro _ implementation _ _ _ _ _ _ ran
    exact Watched.obeys_stop law _ ran

omit law answers reaches in
theorem content_of_watchMaterialize {contract : Contract} {source : Deferred σ}
    {world after : World σ} {implementation : Implementation σ} {events : List (Event σ)}
    (ran : watchMaterialize answer contract source world =
      some (.value implementation, after, events)) :
    after.instances.content? source.cell = some implementation := by
  cases content : world.instances.content? source.cell with
  | some present =>
      rw [watchMaterialize_of_full content] at ran
      cases ran
      exact content
  | none =>
      obtain ⟨made, middle, inside, -, -, ended⟩ := watchMaterialize_of_empty content ran
      rcases ended with ⟨kept, -, -, same, rfl⟩ | ⟨rejected, -⟩
      · cases same
        exact if_pos rfl
      · cases rejected

omit law answers reaches in
/-- What is found for a fragment is its instance; nothing is found for a placeholder only. -/
theorem holds_of_watchImplementation {world after : World σ} {events : List (Event σ)}
    {found : Option (Implementation σ)}
    (ran : fragment.watchImplementation answer world = some (.value found, after, events)) :
    (found = none ∧ fragment.binding = none) ∨
      ∃ implementation, found = some implementation ∧ after.Holds fragment implementation := by
  cases bound : fragment.binding with
  | none =>
      rw [watchImplementation, bound] at ran
      cases ran
      exact .inl ⟨rfl, rfl⟩
  | some binding =>
      cases binding with
      | eager implementation =>
          rw [watchImplementation, bound] at ran
          cases ran
          exact .inr ⟨implementation, rfl, .inl bound⟩
      | deferred source =>
          rw [watchImplementation, bound] at ran
          rcases Watched.bind_cases ran with
            ⟨implementation, middle, earlier, later, made, stopped, -⟩ | ⟨_, _, impossible⟩ |
              ⟨_, _, impossible⟩
          · cases stopped
            refine .inr ⟨implementation, rfl, .inr ⟨source, bound, ?_⟩⟩
            exact content_of_watchMaterialize made
          · cases impossible
          · cases impossible

theorem obeys_watchServe {implementation : Implementation σ} {world after : World σ}
    {ending : Ending Json} {events : List (Event σ)} {interface : String} {arguments : List Json}
    (holds : world.Holds fragment implementation)
    (ran : fragment.watchServe answer interface method arguments (some implementation) world =
      some (ending, after, events)) : relation world events after := by
  obtain ⟨inside, worked, rfl⟩ := Watched.ends_of_following ran
  exact law.trans (law.served arguments reaches holds) (Program.obeys_watch law answers _ [] worked)

theorem obeys_watchInvoke (interface : String) (arguments : List Json) :
    (fragment.watchInvoke answer interface method arguments).Obeys relation := by
  have finds := obeys_watchImplementation law answers reaches
  refine finds.bind law ?_
  intro world found middle events began ending after later ran
  rcases holds_of_watchImplementation began with ⟨rfl, missing⟩ | ⟨implementation, rfl, holds⟩
  · cases ran
    exact law.lacking middle interface reaches missing
  · exact obeys_watchServe law answers reaches holds ran

end Fragment

theorem Repository.obeys_watch (request : Call) :
    ((directory request.repository).watch answer request).Obeys relation := by
  intro world ending after events ran
  cases routed : (directory request.repository).target request.method with
  | error error =>
      rw [watch, routed] at ran
      cases ran
      exact law.moved (law.refused world routed) rfl rfl
  | ok fragment =>
      obtain ⟨entered, left, before, behind, invoked⟩ := watch_of_target_ok routed ran
      have inside := Fragment.obeys_watchInvoke law answers (law.routed routed) _ _ invoked
      exact law.moved inside before.instances behind.instances

end Runs

/-- Calls obey every law, however deep they nest. -/
theorem Directory.obeys_watch {directory : Directory σ} {reached : Signature → Fragment σ → Prop}
    {relation : World σ → List (Event σ) → World σ → Prop} (law : Law directory reached relation)
    (depth : Nat) (request : Call) : (directory.watch depth request).Obeys relation := by
  induction depth generalizing request with
  | zero =>
      intro world ending after events ran
      simp [watch] at ran
  | succ depth ih => exact Repository.obeys_watch law ih request

end FragmentAssembly
