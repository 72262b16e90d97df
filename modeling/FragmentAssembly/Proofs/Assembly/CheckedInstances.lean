import FragmentAssembly.Proofs.Assembly.Growth

/-!
# Only checked instances are called

Whenever a call of a repository reaches an instance, the contract of the slot declares the method, and
the instance passed the check against that contract before: when the fragment was made from it, or when
a factory made it for the cell of the fragment. Cells belong to one fragment each, so an instance that
was checked for a cell was checked for the contract that it is called for.
-/

namespace FragmentAssembly

variable {σ : Type}

/-- The instance was given to the fragment, or a factory made it for the fragment's cell earlier. -/
def Fragment.Provides (fragment : Fragment σ) (earlier : List (Event σ))
    (implementation : Implementation σ) : Prop :=
  fragment.binding = some (.eager implementation) ∨
    ∃ cell, fragment.Owns cell ∧ .made cell (.value implementation) ∈ earlier

/-- A method is routed to a fragment by one of the repositories. -/
def Fragment.Routed (hosts : Repository σ → Prop) (method : Signature) (fragment : Fragment σ) : Prop :=
  ∃ repository slot, hosts repository ∧ repository.composition.DeclaresFirst method ⟨slot, fragment⟩

/-- What entitles the library to call an instance. -/
structure Implementation.Warranted (hosts : Repository σ → Prop) (earlier : List (Event σ))
    (contract : Contract) (method : Signature) (implementation : Implementation σ) : Prop where
  /-- The instance satisfies the contract. -/
  satisfies : implementation.satisfies contract = true
  /-- It is called through a slot with that contract, which provides it. -/
  provided : ∃ fragment : Fragment σ, fragment.contract = contract ∧ fragment.Routed hosts method ∧
    fragment.Provides earlier implementation

theorem Implementation.Warranted.mono {hosts more : Repository σ → Prop}
    (included : ∀ repository, hosts repository → more repository) {earlier : List (Event σ)}
    {contract : Contract} {method : Signature} {implementation : Implementation σ}
    (warranted : implementation.Warranted hosts earlier contract method) :
    implementation.Warranted more earlier contract method := by
  obtain ⟨fragment, same, ⟨repository, slot, hosted, first⟩, provides⟩ := warranted.provided
  exact ⟨warranted.satisfies, fragment, same, ⟨repository, slot, included _ hosted, first⟩, provides⟩

/-- What is known of a world in which some fragments are at hand, after some events. -/
structure World.Sound (known : Fragment σ → Prop) (hosts : Repository σ → Prop)
    (history : List (Event σ)) (world : World σ) : Prop where
  /-- The cells of the fragments were handed out. -/
  handed : ∀ fragment cell, known fragment → fragment.Owns cell → cell < world.instances.next
  /-- What is in a cell was made for it and satisfies the contract of its fragment. -/
  checked : ∀ fragment cell implementation, known fragment → fragment.Owns cell →
    world.instances.content? cell = some implementation →
      implementation.satisfies fragment.contract = true ∧
        .made cell (.value implementation) ∈ history
  /-- Every call of an instance was warranted when it happened. -/
  warranted : ∀ earlier contract implementation method arguments later,
    history = earlier ++ .served contract implementation method arguments :: later →
      implementation.Warranted hosts earlier contract method

namespace World.Sound

variable {known : Fragment σ → Prop} {hosts : Repository σ → Prop} {history : List (Event σ)}
  {world : World σ}

theorem of_keepsCells (sound : world.Sound known hosts history) {after : World σ}
    (kept : world.KeepsCells after) : after.Sound known hosts history where
  handed fragment cell knows owns := Nat.lt_of_lt_of_le (sound.handed _ _ knows owns) kept.handed
  checked fragment cell implementation knows owns full := by
    rw [kept.contents] at full
    exact sound.checked fragment cell implementation knows owns full
  warranted := sound.warranted

/-- One more event; if an instance is called, that is warranted. -/
theorem note (sound : world.Sound known hosts history) (event : Event σ)
    (entitled : ∀ contract implementation method arguments,
      event = .served contract implementation method arguments →
        implementation.Warranted hosts history contract method) :
    world.Sound known hosts (history ++ [event]) where
  handed := sound.handed
  checked fragment cell implementation knows owns full := by
    obtain ⟨satisfies, made⟩ := sound.checked fragment cell implementation knows owns full
    exact ⟨satisfies, List.mem_append_left _ made⟩
  warranted earlier contract implementation method arguments later split := by
    rcases List.eq_nil_or_concat later with rfl | ⟨others, last, rfl⟩
    · obtain ⟨rfl, same⟩ := List.append_inj' split rfl
      cases same
      exact entitled contract implementation method arguments rfl
    · have inside : history = earlier ++ .served contract implementation method arguments :: others := by
        rw [List.concat_eq_append, ← List.cons_append, ← List.append_assoc] at split
        exact (List.append_inj' split rfl).1
      exact sound.warranted earlier contract implementation method arguments others inside

/-- An instance that was made for a cell, and satisfies the contract of the fragment that the cell
belongs to, may be kept there. -/
theorem fill (copies : Fragment.Copies known) (sound : world.Sound known hosts history)
    {fragment : Fragment σ} {cell : Nat} {implementation : Implementation σ} (knows : known fragment)
    (owns : fragment.Owns cell) (satisfies : implementation.satisfies fragment.contract = true)
    (made : .made cell (.value implementation) ∈ history) :
    (world.fill cell implementation).Sound known hosts history where
  handed other number knowsOther ownsOther :=
    Nat.lt_of_lt_of_le (sound.handed other number knowsOther ownsOther) (Nat.le_max_left _ _)
  checked other number content knowsOther ownsOther full := by
    by_cases same : number = cell
    · subst same
      have equal := copies knowsOther knows ownsOther owns
      subst equal
      have kept : content = implementation := by simpa [World.fill, Cells.fill] using full.symm
      rw [kept]
      exact ⟨satisfies, made⟩
    · have before : world.instances.content? number = some content := by
        simpa [World.fill, Cells.fill, same] using full
      exact sound.checked other number content knowsOther ownsOther before
  warranted := sound.warranted

end World.Sound

theorem World.law_sound {directory : Directory σ} {known : Fragment σ → Prop}
    {hosts : Repository σ → Prop} (copies : Fragment.Copies known)
    (listed : ∀ name method fragment, (directory name).target method = .ok fragment →
      hosts (directory name))
    (slots : ∀ repository, hosts repository → ∀ slot ∈ repository.composition.slots, known slot) :
    Law directory (fun method fragment => fragment.Routed hosts method) fun before events after =>
      ∀ history, before.Sound known hosts history → after.Sound known hosts (history ++ events) := by
  have knows : ∀ {method : Signature} {fragment : Fragment σ}, fragment.Routed hosts method →
      known fragment := by
    rintro method fragment ⟨repository, slot, hosted, first⟩
    exact slots repository hosted fragment (List.mem_of_getElem? first.getElem?_eq)
  constructor
  case quiet =>
    intro before after same history sound
    rw [List.append_nil]
    refine sound.of_keepsCells ⟨congrArg Cells.content? same, ?_⟩
    exact Nat.le_of_eq (congrArg Cells.next same.symm)
  case trans =>
    intro before middle after events later first second history sound
    rw [← List.append_assoc]
    exact second _ (first history sound)
  case routed =>
    intro request fragment routed
    obtain ⟨-, slot, first⟩ := Repository.declaresFirst_of_target routed
    exact ⟨directory request.repository, slot, listed _ _ _ routed, first⟩
  case refused =>
    intro request error world _ history sound
    exact sound.note _ (by simp)
  case lacking =>
    intro method fragment world interface _ _ history sound
    exact sound.note _ (by simp)
  case served =>
    intro method fragment world implementation arguments routed holds history sound
    refine sound.note _ ?_
    rintro contract instance? signature list same
    cases same
    rcases holds with given | ⟨source, bound, full⟩
    · exact ⟨fragment.satisfied implementation given, fragment, rfl, routed, .inl given⟩
    · have owns : fragment.Owns source.cell := ⟨source, bound, rfl⟩
      obtain ⟨satisfies, made⟩ := sound.checked fragment _ implementation (knows routed) owns full
      exact ⟨satisfies, fragment, rfl, routed, .inr ⟨source.cell, owns, made⟩⟩
  case failed =>
    intro method fragment source before after events made ending _ _ _ inside _ history sound
    rw [← List.append_assoc]
    exact (inside history sound).note _ (by simp)
  case kept =>
    intro method fragment source before after events implementation routed bound _ inside satisfies
      history sound
    rw [← List.append_assoc]
    have noted := (inside history sound).note (.made source.cell (.value implementation)) (by simp)
    exact noted.fill copies (knows routed) ⟨source, bound, rfl⟩ satisfies (by simp)

namespace Session

/-- What holds in every session that an application can get to. -/
structure Sound (session : Session σ) : Prop where
  /-- Fragments that share a cell are copies. -/
  copies : Fragment.Copies session.Knows
  /-- Only what was checked is in cells, and only such instances were called. -/
  world : session.world.Sound session.Knows session.Hosts session.events

theorem not_knows_start (state : σ) (fragment : Fragment σ) : ¬(start state).Knows fragment := by
  simp [start, Knows]

theorem sound_start (state : σ) : (start state).Sound where
  copies left right cell knows := absurd knows (not_knows_start state left)
  world :=
    { handed := fun fragment cell knows => absurd knows (not_knows_start state fragment)
      checked := fun fragment cell implementation knows =>
        absurd knows (not_knows_start state fragment)
      warranted := by
        intro earlier contract implementation method arguments later split
        simp [start] at split }

namespace Sound

variable {session : Session σ}

/-- A step that runs nothing keeps a session sound: new fragments have cells that are empty. -/
theorem grow (sound : session.Sound) {after : Session σ} {fragments : List (Fragment σ)}
    (grows : session.Grows after fragments) : after.Sound where
  copies left right cell first second := by
    have extended := sound.copies.extend sound.world.handed grows.new
    exact extended (grows.knows left first) (grows.knows right second)
  world :=
    { handed := by
        intro fragment cell knows owns
        rcases grows.knows fragment knows with old | new
        · exact Nat.lt_of_lt_of_le (sound.world.handed fragment cell old owns) grows.world.handed
        · exact (grows.new.cells fragment new cell owns).2
      checked := by
        intro fragment cell implementation knows owns full
        rw [grows.world.contents] at full
        rw [grows.events]
        rcases grows.knows fragment knows with old | new
        · exact sound.world.checked fragment cell implementation old owns full
        · have unused := (grows.new.cells fragment new cell owns).1
          rw [session.world.instances.fresh cell unused] at full
          cases full
      warranted := by
        intro earlier contract implementation method arguments later split
        rw [grows.events] at split
        exact (sound.world.warranted _ _ _ _ _ _ split).mono grows.hosts }

theorem law (sound : session.Sound) :
    Law session.directory (fun method fragment => fragment.Routed session.Hosts method)
      fun before events after => ∀ history, before.Sound session.Knows session.Hosts history →
        after.Sound session.Knows session.Hosts (history ++ events) := by
  refine World.law_sound sound.copies ?_ ?_
  · intro name method fragment routed
    exact ⟨name, Directory.mem_of_target routed⟩
  · rintro repository ⟨name, listed⟩ slot member
    exact .inr (.inr ⟨(name, repository), listed, member⟩)

theorem run (sound : session.Sound) {α : Type} {program : Program σ α}
    {cutOff : Call → Option (Ending Json)} {depth : Nat} {start after : World σ} {ending : Ending α}
    {events : List (Event σ)}
    (ran : program.watch (session.directory.watchWithin cutOff depth) [] start =
      some (ending, after, events)) (history : List (Event σ))
    (before : start.Sound session.Knows session.Hosts history) :
    after.Sound session.Knows session.Hosts (history ++ events) := by
  have answers := session.directory.obeys_watchWithin sound.law cutOff depth
  exact Program.obeys_watch sound.law answers program [] ran history before

theorem materialize (sound : session.Sound) {fragment : Fragment σ} {source : Deferred σ}
    (knows : session.Knows fragment) (bound : fragment.binding = some (.deferred source))
    {cutOff : Call → Option (Ending Json)} {depth : Nat} {ending : Ending (Implementation σ)}
    {after : World σ} {events : List (Event σ)}
    (ran : Fragment.watchMaterialize (session.directory.watchWithin cutOff depth) fragment.contract
      source session.world = some (ending, after, events)) :
    after.Sound session.Knows session.Hosts (session.events ++ events) := by
  cases content : session.world.instances.content? source.cell with
  | some implementation =>
      rw [Fragment.watchMaterialize_of_full content] at ran
      cases ran
      rw [List.append_nil]
      exact sound.world
  | none =>
      obtain ⟨made, middle, inside, run, rfl, outcome⟩ :=
        Fragment.watchMaterialize_of_empty content ran
      have reported :
          (session.world.report [.materializing source.typeName fragment.contract.name]).Sound
            session.Knows session.Hosts session.events :=
        sound.world.of_keepsCells ⟨rfl, Nat.le_refl _⟩
      have noted := (sound.run run session.events reported).note (.made source.cell made) (by simp)
      rw [← List.append_assoc]
      rcases outcome with ⟨implementation, rfl, satisfies, -, rfl⟩ | ⟨-, rfl⟩
      · exact noted.fill sound.copies knows ⟨source, bound, rfl⟩ satisfies (by simp)
      · exact noted

theorem fetch (sound : session.Sound) {fragment : Fragment σ} (knows : session.Knows fragment)
    {cutOff : Call → Option (Ending Json)} {depth : Nat}
    {ending : Ending (Option (Implementation σ))} {after : World σ} {events : List (Event σ)}
    (ran : fragment.watchImplementation (session.directory.watchWithin cutOff depth) session.world =
      some (ending, after, events)) :
    after.Sound session.Knows session.Hosts (session.events ++ events) := by
  have unchanged : session.world.Sound session.Knows session.Hosts (session.events ++ []) := by
    rw [List.append_nil]
    exact sound.world
  cases bound : fragment.binding with
  | none =>
      rw [Fragment.watchImplementation, bound] at ran
      cases ran
      exact unchanged
  | some binding =>
      cases binding with
      | eager implementation =>
          rw [Fragment.watchImplementation, bound] at ran
          cases ran
          exact unchanged
      | deferred source =>
          rw [Fragment.watchImplementation, bound] at ran
          rcases Watched.bind_cases ran with
            ⟨implementation, middle, inside, later, made, stopped, rfl⟩ | ⟨error, failed, -⟩ |
              ⟨message, aborted, -⟩
          · cases stopped
            rw [List.append_nil]
            exact sound.materialize knows bound made
          · exact sound.materialize knows bound failed
          · exact sound.materialize knows bound aborted

theorem step (sound : session.Sound) {after : Session σ} (step : session.Step after) : after.Sound := by
  cases step with
  | elsewhere kept => exact sound.grow (grows_inWorld kept)
  | placeholder contract =>
      refine sound.grow (grows_with_new (World.keepsCells_refl _) ?_)
      intro cell owns
      exact absurd owns (Fragment.not_owns_placeholder contract cell)
  | implemented made =>
      refine sound.grow (grows_with_new (World.keepsCells_refl _) ?_)
      intro cell owns
      exact absurd owns (Fragment.not_owns_implemented made cell)
  | defer contract typeName factory =>
      refine sound.grow (grows_with_new ⟨rfl, Nat.le_add_right _ _⟩ ?_)
      rintro cell ⟨source, bound, rfl⟩
      cases bound
      exact ⟨Nat.le_refl _, Nat.lt_succ_self _⟩
  | resolve resolver contract scope interface =>
      refine sound.grow (grows_with_new (World.keepsCells_reserve _ _ _) ?_)
      intro cell owns
      rw [resolver.cell_of_resolve scope interface owns]
      exact ⟨Nat.le_refl _, Nat.lt_succ_self _⟩
  | empty =>
      refine sound.grow (grows_withComposition (World.keepsCells_refl _) ?_ (Fragment.newIn_nil _ _))
      exact fun _ member => (List.not_mem_nil member).elim
  | append present known => exact sound.grow (grows_append present known)
  | attach present interface =>
      refine sound.grow (grows_withComposition (World.keepsCells_refl _) ?_ (Fragment.newIn_nil _ _))
      exact fun slot member => .inl (.inr (.inl ⟨_, present, member⟩))
  | bind present resolver scope interface =>
      exact sound.grow (grows_bind present resolver scope interface)
  | compose known resolver interface scope =>
      exact sound.grow (grows_compose known resolver interface scope)
  | create known created name => exact sound.grow (grows_create known created name)
  | serve present interface exposesMetadata name =>
      refine sound.grow (grows_withRepository name (World.keepsCells_refl _) ?_
        (Fragment.newIn_nil _ _))
      exact fun slot member => .inl (.inr (.inl ⟨_, present, member⟩))
  | take present slot =>
      exact sound.grow (grows_withFragment (World.keepsCells_refl _)
        (.inl (.inr (.inl ⟨_, present, slot⟩))) (Fragment.newIn_nil _ _))
  | @inspect name repository listed =>
      refine sound.grow (grows_withComposition (World.keepsCells_refl _) ?_ (Fragment.newIn_nil _ _))
      exact fun slot member => .inl (.inr (.inr ⟨(name, repository), listed, member⟩))
  | fetch known ran => exact ⟨sound.copies, sound.fetch (.inl known) ran⟩
  | run ran => exact ⟨sound.copies, sound.run ran session.events sound.world⟩

end Sound

/-- Every session that an application can get to is sound. -/
theorem Reachable.sound {state : σ} {session : Session σ} (reachable : Reachable state session) :
    session.Sound := by
  induction reachable with
  | start => exact sound_start state
  | step _ step ih => exact ih.step step

/-- Whatever an application assembles and runs: when a call of a repository reaches an instance, the
contract of the slot declares the method, and the instance satisfies that contract. It was given to the
fragment in the slot, or a factory made it for the cell of that fragment earlier. If satisfying a contract
means to support all of its methods, the instance supports the method. -/
theorem only_checked_instances_called {state : σ} {session : Session σ}
    (reachable : Reachable state session) {earlier later : List (Event σ)} {contract : Contract}
    {implementation : Implementation σ} {method : Signature} {arguments : List Json}
    (called : session.events =
      earlier ++ .served contract implementation method arguments :: later) :
    contract.declares method = true ∧ implementation.satisfies contract = true ∧
      (∃ name repository slot, ∃ fragment : Fragment σ, (name, repository) ∈ session.repositories ∧
        repository.composition.DeclaresFirst method ⟨slot, fragment⟩ ∧ fragment.contract = contract ∧
        fragment.Provides earlier implementation) ∧
      (implementation.satisfies = Implementation.supportsAll implementation.supports →
        implementation.supports method = true) := by
  have warranted := reachable.sound.world.warranted _ _ _ _ _ _ called
  obtain ⟨fragment, same, ⟨repository, slot, ⟨name, listed⟩, first⟩, provides⟩ := warranted.provided
  have declares : contract.declares method = true := by
    rw [← same]
    exact first.declares
  refine ⟨declares, warranted.satisfies, ⟨name, repository, slot, fragment, listed, first, same,
    provides⟩, ?_⟩
  intro default
  have all := warranted.satisfies
  rw [default, Implementation.supportsAll, List.all_eq_true] at all
  exact all method (Contract.declares_iff.mp declares)

/-- A clock that tells no time. -/
def clock : Implementation Unit where
  typeName := "ClockImpl"
  supports := fun method => method = ⟨"now", []⟩
  satisfies := Implementation.supportsAll fun method => method = ⟨"now", []⟩
  invoke := fun _ _ => .finish (.value .null)

/-- A fragment that makes a clock on first use. -/
def clockFragment : Fragment Unit :=
  .deferred ((Contract.named "Clock").withMethods [⟨"now", []⟩])
    { typeName := "ClockImpl", factory := .finish (.value clock), cell := 0 }

/-- A session with a repository of that fragment. -/
def clocks : Session Unit :=
  let composition := Composition.empty.append clockFragment
  { world := (World.initial ()).reserve 1
    fragments := [clockFragment]
    compositions := [composition, .empty]
    repositories := [("Clocks", .ofComposition (.named "Clocks" "" "") composition false)]
    events := [] }

theorem reachable_clocks : Reachable () clocks := by
  have made : Reachable () _ :=
    .step .start (.defer clockFragment.contract "ClockImpl" (.finish (.value clock)))
  have begun := made.step .empty
  have composed := begun.step (.append List.mem_cons_self fun _ member => member)
  exact composed.step (.serve List.mem_cons_self (.named "Clocks" "" "") false "Clocks")

theorem only_checked_instances_called_clock :
    ∃ session : Session Unit, Reachable () session ∧
      session.events = [.made 0 (.value clock)] ++
        [.served clockFragment.contract clock ⟨"now", []⟩ []] ∧
      clockFragment.contract.declares ⟨"now", []⟩ = true ∧ clock.supports ⟨"now", []⟩ = true := by
  have first : (clocks.directory "Clocks").composition.DeclaresFirst ⟨"now", []⟩
      ⟨0, clockFragment⟩ := by
    refine ⟨by decide, rfl, by decide, ?_⟩
    intro earlier fragment before
    exact absurd before (Nat.not_lt_zero earlier)
  have routed : (clocks.directory "Clocks").target ⟨"now", []⟩ = .ok clockFragment :=
    Repository.target_of_declaresFirst first
  have happened : ((Program.call ⟨"Clocks", .direct, ⟨"now", []⟩, []⟩ .finish).watch
      (clocks.directory.watchWithin (fun _ => none) 1) [] clocks.world).map (fun run => run.2.2) =
        some ([.made 0 (.value clock)] ++ [.served clockFragment.contract clock ⟨"now", []⟩ []]) := by
    simp only [Program.watch, Directory.watchWithin, Repository.watch, routed]
    rfl
  obtain ⟨⟨ending, after, events⟩, ran, rfl⟩ := Option.map_eq_some_iff.mp happened
  have called := reachable_clocks.step (.run ran)
  obtain ⟨declares, -, -, supports⟩ := only_checked_instances_called called rfl
  exact ⟨_, called, rfl, declares, supports rfl⟩

end Session
end FragmentAssembly
