import FragmentAssembly.Proofs.Composition.Completeness
import FragmentAssembly.Proofs.Events.Laws
import FragmentAssembly.Proofs.Repository.Routing
import FragmentAssembly.Proofs.Resolution.Notices
import FragmentAssembly.Proofs.Resolution.Selection

/-!
# Creating a repository in either mode

Both modes compose the same slots, and neither makes an instance. In lazy mode a repository may have
placeholders, which are reported by the calls that need them. In eager mode the first placeholder is the
reason not to create the repository; so no call of a repository that was created can find one, whatever
the application does with it.
-/

namespace FragmentAssembly

variable {σ : Type}

namespace Resolver

theorem interfaceName_compose (resolver : Resolver σ) (interface : Interface) (scope : SearchScope)
    (base : Fragment σ) (cell : Nat) :
    (resolver.compose interface scope base cell).interfaceName = interface.name := by
  have attached : (resolver.compose interface scope base cell).interface? = some interface.name :=
    Composition.interface?_appendAll _ _
  rw [Composition.interfaceName, attached]
  rfl

/-- A slot of a composition is the base, or it was resolved for a cell of its own. -/
theorem mem_slots_compose {resolver : Resolver σ} {interface : Interface} {scope : SearchScope}
    {base fragment : Fragment σ} {cell : Nat}
    (member : fragment ∈ (resolver.compose interface scope base cell).slots) :
    fragment = base ∨ ∃ contract number,
      fragment = resolver.resolve contract scope interface (cell + number) := by
  rcases eq_base_or_mem_resolveAll resolver scope interface member with same | found
  · exact .inl same
  · obtain ⟨number, contract, -, rfl⟩ := exists_of_mem_resolveAll resolver scope interface found
    exact .inr ⟨contract, number, rfl⟩

end Resolver

/-! ## The two modes -/

namespace Assembler

/-- The same assembler in a mode. -/
def inMode (assembler : Assembler σ) (mode : BootstrapMode) : Assembler σ :=
  { assembler with configuration := { assembler.configuration with bootstrapMode := mode } }

/-- There are no store modules, or one of them accepts the interface. -/
def Accepts (assembler : Assembler σ) (interface : Interface) : Prop :=
  assembler.storeModules = [] ∨
    ∃ storeModule ∈ assembler.storeModules, storeModule.accepts interface = true

variable (assembler : Assembler σ) (interface : Interface) (base : Fragment σ)

/-- The repository of an interface, with or without placeholders. -/
def assembled (cell : Nat) : Repository σ :=
  .ofComposition interface (assembler.compose interface base cell)
    assembler.configuration.exposesMetadata

theorem create_lazy (cell : Nat) :
    (assembler.inMode .lazy).create interface base cell =
      (assembler.responsible interface).map fun _ => assembler.assembled interface base cell := by
  change (assembler.responsible interface).bind _ = _
  cases assembler.responsible interface with
  | error error => rfl
  | ok storeModule => rfl

theorem create_eager (cell : Nat) :
    (assembler.inMode .eager).create interface base cell =
      (assembler.responsible interface).bind fun _ =>
        (assembler.compose interface base cell).requireImplemented.map fun _ =>
          assembler.assembled interface base cell := by
  change (assembler.responsible interface).bind _ = _
  cases assembler.responsible interface with
  | error error => rfl
  | ok storeModule =>
      change (assembler.compose interface base cell).requireImplemented.bind _ = _
      simp only [Except.bind]
      cases (assembler.compose interface base cell).requireImplemented with
      | error error => rfl
      | ok checked => rfl

variable {assembler interface}

theorem responsible_of_accepts (accepts : assembler.Accepts interface) :
    ∃ storeModule, assembler.responsible interface = .ok storeModule := by
  rw [responsible]
  split
  · exact ⟨_, rfl⟩
  · rename_i some
    rcases accepts with none | ⟨storeModule, listed, willing⟩
    · rw [none] at some
      exact absurd rfl some
    · have found : (assembler.storeModules.find? (·.accepts interface)).isSome = true :=
        List.find?_isSome.mpr ⟨storeModule, listed, willing⟩
      obtain ⟨chosen, first⟩ := Option.isSome_iff_exists.mp found
      rw [first]
      exact ⟨chosen.name, rfl⟩

theorem responsible_of_not_accepts (refuses : ¬assembler.Accepts interface) :
    assembler.responsible interface = .error (.noStoreModule interface.name interface.isReactive) := by
  rw [Accepts, not_or] at refuses
  have unwilling : assembler.storeModules.find? (·.accepts interface) = none := by
    rw [List.find?_eq_none]
    intro storeModule listed willing
    exact refuses.2 ⟨storeModule, listed, willing⟩
  rw [responsible, if_neg (by simpa using refuses.1), unwilling]

theorem create_of_not_accepts (refuses : ¬assembler.Accepts interface) (mode : BootstrapMode)
    (base : Fragment σ) (cell : Nat) :
    (assembler.inMode mode).create interface base cell =
      .error (.noStoreModule interface.name interface.isReactive) := by
  cases mode with
  | lazy =>
      rw [create_lazy, responsible_of_not_accepts refuses]
      rfl
  | eager =>
      rw [create_eager, responsible_of_not_accepts refuses]
      rfl

theorem create_lazy_of_accepts (accepts : assembler.Accepts interface) (base : Fragment σ)
    (cell : Nat) :
    (assembler.inMode .lazy).create interface base cell =
      .ok (assembler.assembled interface base cell) := by
  obtain ⟨storeModule, responsible⟩ := responsible_of_accepts accepts
  rw [create_lazy, responsible]
  rfl

theorem create_eager_of_accepts (accepts : assembler.Accepts interface) (base : Fragment σ)
    (cell : Nat) :
    (assembler.inMode .eager).create interface base cell =
      (assembler.compose interface base cell).requireImplemented.map fun _ =>
        assembler.assembled interface base cell := by
  obtain ⟨storeModule, responsible⟩ := responsible_of_accepts accepts
  rw [create_eager, responsible]
  rfl

theorem create_eager_of_complete (accepts : assembler.Accepts interface) {base : Fragment σ}
    {cell : Nat} (complete : (assembler.compose interface base cell).Complete) :
    (assembler.inMode .eager).create interface base cell =
      .ok (assembler.assembled interface base cell) := by
  rw [create_eager_of_accepts accepts, Composition.requireImplemented_of_complete complete]
  rfl

theorem create_eager_of_firstPlaceholder (accepts : assembler.Accepts interface)
    {base fragment : Fragment σ} {cell : Nat}
    (first : (assembler.compose interface base cell).FirstPlaceholder fragment) :
    (assembler.inMode .eager).create interface base cell =
      .error (.noImplementation interface.name fragment.contract) := by
  have attached : (assembler.compose interface base cell).interfaceName = interface.name :=
    Resolver.interfaceName_compose _ _ _ _ _
  rw [create_eager_of_accepts accepts, Composition.requireImplemented_of_firstPlaceholder first, attached]
  rfl

theorem create_lazy_eq_ok {base : Fragment σ} {cell : Nat} {repository : Repository σ}
    (created : (assembler.inMode .lazy).create interface base cell = .ok repository) :
    assembler.Accepts interface ∧ repository = assembler.assembled interface base cell := by
  by_cases accepts : assembler.Accepts interface
  · rw [create_lazy_of_accepts accepts] at created
    cases created
    exact ⟨accepts, rfl⟩
  · rw [create_of_not_accepts accepts] at created
    cases created

theorem create_eager_eq_ok {base : Fragment σ} {cell : Nat} {repository : Repository σ}
    (created : (assembler.inMode .eager).create interface base cell = .ok repository) :
    assembler.Accepts interface ∧ (assembler.compose interface base cell).Complete ∧
      repository = assembler.assembled interface base cell := by
  by_cases accepts : assembler.Accepts interface
  · rcases (assembler.compose interface base cell).complete_or_firstPlaceholder with
      complete | ⟨fragment, first⟩
    · rw [create_eager_of_complete accepts complete] at created
      cases created
      exact ⟨accepts, complete, rfl⟩
    · rw [create_eager_of_firstPlaceholder accepts first] at created
      cases created
  · rw [create_of_not_accepts accepts] at created
    cases created

theorem create_eager_eq_error (accepts : assembler.Accepts interface) {base : Fragment σ} {cell : Nat}
    {error : Error} (failed : (assembler.inMode .eager).create interface base cell = .error error) :
    ∃ fragment, (assembler.compose interface base cell).FirstPlaceholder fragment ∧
      error = .noImplementation interface.name fragment.contract := by
  rcases (assembler.compose interface base cell).complete_or_firstPlaceholder with
    complete | ⟨fragment, first⟩
  · rw [create_eager_of_complete accepts complete] at failed
    cases failed
  · rw [create_eager_of_firstPlaceholder accepts first] at failed
    cases failed
    exact ⟨fragment, first, rfl⟩

theorem create_eq_ok {mode : BootstrapMode} {base : Fragment σ} {cell : Nat} {repository : Repository σ}
    (created : (assembler.inMode mode).create interface base cell = .ok repository) :
    repository = assembler.assembled interface base cell := by
  cases mode with
  | lazy => exact (create_lazy_eq_ok created).2
  | eager => exact (create_eager_eq_ok created).2.2

/-- Apart from the base no fragment of a new repository has an instance. -/
theorem isMaterialized_of_mem_assembled {world : World σ} {base fragment : Fragment σ}
    (member : fragment ∈
      (assembler.assembled interface base world.instances.next).composition.slots) :
    fragment = base ∨ world.isMaterialized fragment = false := by
  rcases Resolver.mem_slots_compose member with same | ⟨contract, number, rfl⟩
  · exact .inl same
  · exact .inr (World.isMaterialized_of_unused (Nat.le_add_right _ number) _ _ _ _)

end Assembler

/-! ## What calls of a complete repository find -/

namespace Repository

/-- The only reason to refuse a call of a complete repository is that no slot declares its method. -/
theorem target_of_complete {repository : Repository σ} (complete : repository.composition.Complete)
    {method : Signature} {error : Error} (routed : repository.target method = .error error) :
    error = .methodNotFound repository.interface.name method.display := by
  cases declared : repository.declares method with
  | false =>
      rw [target_of_not_declares declared] at routed
      cases routed
      rfl
  | true =>
      obtain ⟨target, first⟩ := (repository.declares_iff_exists_declaresFirst method).mp declared
      have implemented := complete target.fragment (List.mem_of_getElem? first.getElem?_eq)
      rw [target_of_declaresFirst first, if_pos implemented] at routed
      cases routed

end Repository

/-- A placeholder is reported: a call of a repository is refused for one, or one is called. -/
def Event.Reports (name : String) : Event σ → Prop
  | .refused request error => request.repository = name ∧ error.placeholder?.isSome = true
  | .lacking _ _ => True
  | .made _ _ => False
  | .served _ _ _ _ => False

/-- In a complete repository no run finds a placeholder. -/
theorem Repository.law_complete {directory : Directory σ} {name : String}
    (complete : (directory name).composition.Complete) :
    Law directory (fun _ fragment => fragment.isImplemented = true)
      (fun _ events _ => ∀ event ∈ events, ¬event.Reports name) := by
  refine Law.of_events (fun routed => (declaresFirst_of_target routed).1) ?_ ?_ ?_ ?_
  · rintro request error routed ⟨same, placeholder⟩
    rw [same] at routed
    rw [target_of_complete complete routed] at placeholder
    cases placeholder
  · intro method fragment interface implemented missing
    rw [Fragment.isImplemented, missing] at implemented
    cases implemented
  · intro method fragment world implementation arguments _ _
    exact id
  · intro cell ending
    exact id

theorem Repository.watch_of_complete {directory : Directory σ} {name : String}
    (complete : (directory name).composition.Complete) {α : Type} {depth : Nat}
    {program : Program σ α} {world after : World σ} {ending : Ending α}
    (ran : program.run (directory.answer depth) [] world = some (ending, after)) :
    ∃ events, program.watch (directory.watch depth) [] world = some (ending, after, events) ∧
      ∀ event ∈ events, ¬event.Reports name := by
  rw [← directory.forget_comp_watch, ← Program.forget_watch] at ran
  obtain ⟨events, watched⟩ := Watched.exists_events ran
  have law := law_complete complete
  exact ⟨events, watched,
    Program.obeys_watch law (directory.obeys_watch law depth) program [] watched⟩

namespace World

/-- Nothing happens to the stores, the application and the instances. What is reported is not about
factories. -/
structure Undisturbed (before after : World σ) : Prop where
  /-- The stores are the same. -/
  surroundings : after.surroundings = before.surroundings
  /-- No invocation is made. -/
  nextInvocation : after.nextInvocation = before.nextInvocation
  /-- The application is in the same state. -/
  state : after.state = before.state
  /-- The cells have the same content. -/
  content : ∀ cell, after.instances.content? cell = before.instances.content? cell
  /-- No fragment gains or loses its instance. -/
  materialized : ∀ fragment, after.isMaterialized fragment = before.isMaterialized fragment
  /-- No notice of a factory is among those that are added. -/
  notices : ∃ added, after.notices = before.notices ++ added ∧
    ∀ notice ∈ added, notice.isMaterializing = false

theorem undisturbed_create (world : World σ) (assembler : Assembler σ) (interface : Interface)
    (base : Fragment σ) : world.Undisturbed (world.create assembler interface base).2 := by
  refine ⟨rfl, rfl, rfl, fun _ => rfl, fun _ => rfl, _, rfl, ?_⟩
  intro notice member
  rw [Assembler.createNotices] at member
  split at member
  · cases member
  · rcases List.mem_append.mp member with composed | finished
    · exact Resolver.isMaterializing_composeNotices composed
    · split at finished
      · cases finished
      · obtain rfl := List.mem_singleton.mp finished
        rfl

end World

namespace Assembler

/-- In lazy mode the repository of an interface is created exactly if there are no store modules or one
of them accepts it. In eager mode that repository must have no placeholder; the first one is the error.
Either mode assembles it from what the resolver composes for the interface and the base, and both route
every method to the same slot with the same type of implementation. Creating a repository runs no factory
and makes no instance. A repository that was created in eager mode never reports a placeholder, whatever a
program does with it and with other repositories. -/
theorem create_in_both_modes (assembler : Assembler σ) (interface : Interface) (base : Fragment σ)
    (before other : World σ) :
    let lazily := before.create (assembler.inMode .lazy) interface base
    let eagerly := other.create (assembler.inMode .eager) interface base
    ((∃ repository, lazily.1 = .ok repository) ↔ assembler.Accepts interface) ∧
      (¬assembler.Accepts interface →
        lazily.1 = .error (.noStoreModule interface.name interface.isReactive) ∧
          eagerly.1 = .error (.noStoreModule interface.name interface.isReactive)) ∧
      ((∃ repository, eagerly.1 = .ok repository) ↔
        ∃ repository, lazily.1 = .ok repository ∧ repository.composition.Complete) ∧
      (∀ first second, lazily.1 = .ok first → eagerly.1 = .ok second → ∀ method,
        (first.table.lookup? method).map Target.outline =
          (second.table.lookup? method).map Target.outline) ∧
      (∀ first error, lazily.1 = .ok first → eagerly.1 = .error error →
        ∃ fragment, first.composition.FirstPlaceholder fragment ∧
          error = .noImplementation interface.name fragment.contract) ∧
      (∀ mode, before.Undisturbed (before.create (assembler.inMode mode) interface base).2 ∧
        ∀ repository, (before.create (assembler.inMode mode) interface base).1 = .ok repository →
          repository = assembler.assembled interface base before.instances.next ∧
            ∀ fragment ∈ repository.composition.slots,
              fragment = base ∨ before.isMaterialized fragment = false) ∧
      ∀ second, eagerly.1 = .ok second →
        (∀ method error, second.target method = .error error →
          error = .methodNotFound interface.name method.display) ∧
        ∀ (directory : Directory σ) name, directory name = second →
          ∀ depth {α : Type} (program : Program σ α) world ending after,
            program.run (directory.answer depth) [] world = some (ending, after) →
              ∃ events,
                program.watch (directory.watch depth) [] world = some (ending, after, events) ∧
                  ∀ event ∈ events, ¬event.Reports name := by
  intro lazily eagerly
  have outlines : (assembler.compose interface base before.instances.next).slots.map
        Fragment.outline =
      (assembler.compose interface base other.instances.next).slots.map Fragment.outline :=
    assembler.resolver.map_outline_compose assembler.scope interface base _ _
  refine ⟨?_, ?_, ?_, ?_, ?_, ?_, ?_⟩
  · constructor
    · rintro ⟨repository, created⟩
      exact (create_lazy_eq_ok created).1
    · intro accepts
      exact ⟨_, create_lazy_of_accepts accepts base _⟩
  · intro refuses
    exact ⟨create_of_not_accepts refuses .lazy base _, create_of_not_accepts refuses .eager base _⟩
  · constructor
    · rintro ⟨repository, created⟩
      obtain ⟨accepts, complete, rfl⟩ := create_eager_eq_ok created
      exact ⟨_, create_lazy_of_accepts accepts base _, complete.of_outline outlines.symm⟩
    · rintro ⟨repository, created, complete⟩
      obtain ⟨accepts, rfl⟩ := create_lazy_eq_ok created
      exact ⟨_, create_eager_of_complete accepts (complete.of_outline outlines)⟩
  · intro first second created also
    obtain ⟨-, rfl⟩ := create_lazy_eq_ok created
    obtain ⟨-, -, rfl⟩ := create_eager_eq_ok also
    exact Composition.map_outline_lookup? outlines
  · intro first error created failed
    obtain ⟨accepts, rfl⟩ := create_lazy_eq_ok created
    obtain ⟨twin, placeholder, rfl⟩ := create_eager_eq_error accepts failed
    obtain ⟨fragment, ⟨split, missing⟩, same⟩ := placeholder.of_outline outlines.symm
    exact ⟨fragment, ⟨split, missing⟩, by rw [same]⟩
  · intro mode
    refine ⟨before.undisturbed_create _ interface base, ?_⟩
    intro repository created
    obtain rfl := create_eq_ok created
    exact ⟨rfl, fun fragment member => isMaterialized_of_mem_assembled member⟩
  · intro second created
    obtain ⟨-, complete, rfl⟩ := create_eager_eq_ok created
    refine ⟨fun method error routed => Repository.target_of_complete complete routed, ?_⟩
    intro directory name named depth α program world ending after ran
    have served : (directory name).composition.Complete := by
      rw [named]
      exact complete
    exact Repository.watch_of_complete served ran

end Assembler

end FragmentAssembly
