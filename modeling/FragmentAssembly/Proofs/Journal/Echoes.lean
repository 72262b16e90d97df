import FragmentAssembly.Proofs.Journal.Essence

/-!
# Runs in peer worlds

A call that ends in one world ends in the same way in every other world in which the same invocation is
in progress, if the application cannot tell the numbers of invocations apart and if its factories settle.
The other run may have to make instances that exist in the first world, or find instances that the first
run has to make. So it may nest calls deeper.
-/

namespace FragmentAssembly

variable {σ α β : Type} {made : Nat → Ending (Implementation σ)}

/-- Two steady worlds in which the same invocation is in progress, up to its number. -/
structure World.Peers (made : Nat → Ending (Implementation σ)) (left right : World σ) : Prop where
  steady : left.Steady made
  calm : right.Steady made
  same : Invocation.Match left.surroundings.current? right.surroundings.current?

theorem World.Peers.restored {before world after reached : World σ} (peers : before.Peers made world)
    (steady : after.Steady made) (calm : reached.Steady made)
    (kept : after.surroundings = before.surroundings)
    (retained : reached.surroundings = world.surroundings) : after.Peers made reached := by
  refine ⟨steady, calm, ?_⟩
  rw [kept, retained]
  exact peers.same

namespace Recorded

/-- Whenever the run ends, the others end in the same way in every peer of its world, all of them that
are far enough in the sequence. Their journal is the same, up to numbers and factories. -/
def EchoedBy (made : Nat → Ending (Implementation σ)) (allowed : α → Prop) (recorded : Recorded σ α)
    (others : Nat → Recorded σ α) : Prop :=
  ∀ ⦃before world ending after journal⦄, before.Peers made world →
    recorded before = some (ending, after, journal) →
      ending.Satisfies allowed ∧
        ∃ bound reached record,
          (∀ larger, bound ≤ larger → others larger world = some (ending, reached, record)) ∧
            after.Peers made reached ∧ journal.essence = record.essence

variable {allowed : α → Prop} {recorded : Recorded σ α} {others : Nat → Recorded σ α}

theorem echoedBy_stop {ending : Ending α} (satisfies : ending.Satisfies allowed) :
    (silent (.stop ending) : Recorded σ α).EchoedBy made allowed fun _ => silent (.stop ending) := by
  intro before world ended after journal peers ran
  cases ran
  exact ⟨satisfies, 0, world, .done, fun _ _ => rfl, peers, rfl⟩

theorem EchoedBy.within (echoed : recorded.EchoedBy made allowed others) (entry : Journal → Journal)
    (respects : ∀ inside record, inside.essence = record.essence →
      (entry inside).essence = (entry record).essence) :
    (within entry recorded).EchoedBy made allowed fun larger => within entry (others larger) := by
  intro before world ending after journal peers ran
  obtain ⟨inside, inner, rfl⟩ := ends_of_within ran
  obtain ⟨satisfies, bound, reached, record, ends, still, agree⟩ := echoed peers inner
  refine ⟨satisfies, bound, reached, entry record, ?_, still, respects _ _ agree⟩
  intro larger le
  simp only [Recorded.within, ends larger le, Option.map_some]

theorem EchoedBy.bind {allowedThen : β → Prop} {second : α → Recorded σ β}
    {continued : α → Nat → Recorded σ β} (begins : recorded.EchoedBy made allowed others)
    (continues : ∀ result, allowed result →
      (second result).EchoedBy made allowedThen (continued result)) :
    (recorded.bind second).EchoedBy made allowedThen fun larger =>
      (others larger).bind fun result => continued result larger := by
  intro before world ending after journal peers ran
  rcases bind_cases ran with ⟨result, middle, earlier, later, began, went, rfl⟩ |
    ⟨error, began, rfl⟩ | ⟨message, began, rfl⟩
  · obtain ⟨satisfies, bound, between, record, ends, still, agree⟩ := begins peers began
    obtain ⟨satisfied, other, reached, rest, finishes, last, follow⟩ :=
      continues result satisfies still went
    refine ⟨satisfied, max bound other, reached, record.append rest, ?_, last, ?_⟩
    · intro larger le
      simp only [Recorded.bind, ends larger (by omega), Recorded.within, finishes larger (by omega),
        Option.map_some]
    · rw [Journal.essence_append, Journal.essence_append, agree, follow]
  · obtain ⟨-, bound, reached, record, ends, still, agree⟩ := begins peers began
    refine ⟨trivial, bound, reached, record, ?_, still, agree⟩
    intro larger le
    simp only [Recorded.bind, ends larger le]
  · obtain ⟨-, bound, reached, record, ends, still, agree⟩ := begins peers began
    refine ⟨trivial, bound, reached, record, ?_, still, agree⟩
    intro larger le
    simp only [Recorded.bind, ends larger le]

end Recorded

section Echoes

variable {directory : Directory σ} {depth : Nat} (steady : directory.Steady made)
  (echoed : ∀ request, (directory.record depth request).EchoedBy made (fun _ => True)
    (directory.record · request))

include echoed in
/-- A blind program does the same in peer worlds. -/
theorem Program.echoedBy_record {program : Program σ α} (blind : program.Blind) :
    (program.record (directory.record depth) []).EchoedBy made (fun _ => True) fun larger =>
      program.record (directory.record larger) [] := by
  intro before world ending after journal peers ran
  induction program generalizing before world journal with
  | finish ending =>
      cases ran
      refine ⟨?_, 0, world, .done, fun _ _ => rfl, peers, rfl⟩
      cases ending <;> trivial
  | current next ih =>
      obtain ⟨rest, continued, rfl⟩ := Recorded.ends_of_within ran
      obtain ⟨satisfies, bound, reached, record, ends, still, agree⟩ :=
        ih _ (blind.1 _) peers continued
      refine ⟨satisfies, bound, reached, .read world.surroundings.current record, ?_, still, ?_⟩
      · intro larger le
        simp only [Program.record, Recorded.within, ← blind.2 _ _ peers.same, ends larger le,
          Option.map_some]
      · rw [Journal.essence, Journal.essence, agree, Surroundings.current, Surroundings.current,
          peers.same.reply]
  | prepare interface method next ih =>
      have prepared : (before.prepare interface method).2.Peers made
          (world.prepare interface method).2 :=
        peers.restored peers.steady peers.calm rfl rfl
      have alike : next (world.prepare interface method).1 = next (before.prepare interface method).1 :=
        blind.2 _ _ rfl
      simp only [Program.record] at ran
      simp only [Program.record, alike]
      exact ih _ (blind.1 _) prepared ran
  | enter invocation next ih => exact blind.elim
  | suppress next ih => exact blind.elim
  | release next ih => exact blind.elim
  | read next ih => exact blind.elim
  | write state next ih => exact blind.elim
  | call request next ih =>
      obtain ⟨answered, middle, entry, rest, called, continued, rfl⟩ := record_call_cases ran
      obtain ⟨-, bound, between, opening, answers, amid, agree⟩ := echoed request peers called
      obtain ⟨satisfies, other, reached, record, ends, still, follow⟩ :=
        ih answered (blind answered) amid continued
      refine ⟨satisfies, max bound other, reached, opening.append record, ?_, still, ?_⟩
      · intro larger le
        simp only [Program.record, answers larger (by omega), Recorded.within,
          ends larger (by omega), Option.map_some]
      · rw [Journal.essence_append, Journal.essence_append, agree, follow]

namespace Fragment

include steady

/-- The cell of a fragment can be used in every steady world. -/
theorem exists_recordMaterialize {contract : Contract} {source : Deferred σ}
    (bound : (Binding.deferred source).Steady directory made contract) {world : World σ}
    (calm : world.Steady made) :
    ∃ bound reached journal, ∀ larger, bound ≤ larger →
      recordMaterialize (directory.record larger) contract source world =
        some (made source.cell, reached, journal) := by
  have finishes : ∃ depth outcome,
      recordMaterialize (directory.record depth) contract source world = some outcome := by
    cases content : world.instances.content? source.cell with
    | some implementation =>
        refine ⟨0, (.value implementation, world, .done), ?_⟩
        rw [recordMaterialize, content]
    | none =>
        have reported : (world.report [.materializing source.typeName contract.name]).Steady made :=
          calm
        obtain ⟨⟨ending, settles, -⟩, -⟩ := bound
        obtain ⟨depth, after, journal, ends⟩ := settles reported
        refine ⟨depth, ?_⟩
        rw [recordMaterialize, content]
        simp only [Recorded.bind, Recorded.within, ends depth (Nat.le_refl _), Option.map_some]
        cases ending with
        | value implementation =>
            simp only [Recorded.silent, keep]
            split
            · exact ⟨_, rfl⟩
            · exact ⟨_, rfl⟩
        | failure error => exact ⟨_, rfl⟩
        | abort message => exact ⟨_, rfl⟩
  obtain ⟨depth, ⟨ending, reached, journal⟩, ends⟩ := finishes
  obtain ⟨rfl, -, -⟩ :=
    ends_of_recordMaterialize (Directory.steadies_record steady depth) bound calm ends
  refine ⟨depth, reached, journal, ?_⟩
  intro larger le
  exact extendedBy_recordMaterialize (directory.extendedBy_record_of_le le) contract source ends

theorem echoedBy_recordMaterialize {contract : Contract} {source : Deferred σ}
    (bound : (Binding.deferred source).Steady directory made contract) :
    (recordMaterialize (directory.record depth) contract source).EchoedBy made Implementation.Blind
      fun larger => recordMaterialize (directory.record larger) contract source := by
  intro before world ending after journal peers ran
  obtain ⟨rfl, still, nothing⟩ :=
    ends_of_recordMaterialize (Directory.steadies_record steady depth) bound peers.steady ran
  obtain ⟨deep, reached, record, ends⟩ := exists_recordMaterialize steady bound peers.calm
  obtain ⟨-, quiet, silent⟩ := ends_of_recordMaterialize (Directory.steadies_record steady deep) bound
    peers.calm (ends deep (Nat.le_refl _))
  refine ⟨?_, deep, reached, record, ends, ?_, nothing.trans silent.symm⟩
  · cases comes : made source.cell with
    | value implementation => exact bound.2 implementation comes
    | failure error => trivial
    | abort message => trivial
  · have restores := fun depth => restores_materialize (directory.restores_record depth) contract source
    simp only [← forget_recordMaterialize] at restores
    exact peers.restored still quiet (restores depth (Recorded.forget_eq_some ran))
      (restores deep (Recorded.forget_eq_some (ends deep (Nat.le_refl _))))

theorem echoedBy_recordImplementation {fragment : Fragment σ}
    (bound : ∀ binding, fragment.binding = some binding →
      binding.Steady directory made fragment.contract) :
    (fragment.recordImplementation (directory.record depth)).EchoedBy made
      (fun found => ∀ implementation, found = some implementation → implementation.Blind)
      fun larger => fragment.recordImplementation (directory.record larger) := by
  simp only [recordImplementation]
  cases binds : fragment.binding with
  | none =>
      refine Recorded.echoedBy_stop ?_
      rintro _ ⟨⟩
  | some binding =>
      cases binding with
      | eager implementation =>
          refine Recorded.echoedBy_stop ?_
          rintro _ ⟨⟩
          exact bound _ binds
      | deferred source =>
          refine (echoedBy_recordMaterialize steady (bound _ binds)).bind ?_
          intro implementation blind
          refine Recorded.echoedBy_stop ?_
          rintro _ ⟨⟩
          exact blind

include echoed

theorem echoedBy_recordInvoke {fragment : Fragment σ}
    (bound : ∀ binding, fragment.binding = some binding →
      binding.Steady directory made fragment.contract)
    (interface : String) (method : Signature) (arguments : List Json) :
    (fragment.recordInvoke (directory.record depth) interface method arguments).EchoedBy made
      (fun _ => True)
      fun larger => fragment.recordInvoke (directory.record larger) interface method arguments := by
  refine (echoedBy_recordImplementation steady bound).bind ?_
  rintro (_ | implementation) blind
  · exact Recorded.echoedBy_stop trivial
  · have works := Program.echoedBy_record echoed (blind implementation rfl method arguments)
    refine works.within (.serve implementation.typeName method arguments · .done) ?_
    intro inside record agree
    simp only [Journal.essence, agree]

end Fragment

namespace Repository

omit steady echoed in
theorem match_openInvocation (repository : Repository σ) (method : Signature)
    (before world : World σ) :
    Invocation.Match (repository.openInvocation method before).1
      (repository.openInvocation method world).1 := by
  rw [openInvocation_eq, openInvocation_eq]
  cases repository.exposesMetadata with
  | false => rfl
  | true => rfl

omit steady echoed in
/-- Whatever is in progress outside of them, two calls of a method run in peer worlds. -/
theorem peers_interior (repository : Repository σ) (method : Signature) {before world : World σ}
    (peers : before.Peers made world) :
    (repository.interior method before).Peers made (repository.interior method world) := by
  have kept : ∀ outer : World σ,
      (repository.interior method outer).instances = outer.instances := by
    intro outer
    rw [interior, openInvocation_eq]
  have shows : ∀ outer : World σ,
      (repository.interior method outer).surroundings.current? =
        (repository.openInvocation method outer).1 :=
    fun outer => Style.current?_enter .direct _ ⟨.unset, .outside⟩
  refine ⟨?_, ?_, ?_⟩
  · rw [World.Steady, kept]
    exact peers.steady
  · rw [World.Steady, kept]
    exact peers.calm
  · rw [shows, shows]
    exact repository.match_openInvocation method before world

include steady echoed

theorem echoedBy_record (repository : Repository σ) (request : Call)
    (bound : ∀ fragment ∈ repository.composition.slots, ∀ binding,
      fragment.binding = some binding → binding.Steady directory made fragment.contract) :
    (repository.record (directory.record depth) request).EchoedBy made (fun _ => True) fun larger =>
      repository.record (directory.record larger) request := by
  intro before world ending after journal peers ran
  have around : before.surroundings.current.map Invocation.unnumbered =
      world.surroundings.current.map Invocation.unnumbered := peers.same.reply
  cases routed : repository.target request.method with
  | error error =>
      rw [record_of_target_error routed] at ran
      cases ran
      have reported : (before.report (request.style.notices repository.interface.name
          request.method.display)).Peers made (world.report (request.style.notices
            repository.interface.name request.method.display)) :=
        peers.restored peers.steady peers.calm rfl rfl
      refine ⟨trivial, 0, _, _, fun _ _ => record_of_target_error routed _ _, reported, ?_⟩
      simp only [Journal.essence, around]
  | ok fragment =>
      rw [record_of_target_ok (directory.restores_record depth) (directory.oblivious_record depth) _
        request routed] at ran
      obtain ⟨⟨ended, inner, inside⟩, worked, closed⟩ := Option.map_eq_some_iff.mp ran
      cases closed
      obtain ⟨-, deep, core, within, ends, still, agree⟩ := Fragment.echoedBy_recordInvoke steady echoed
        (bound fragment (mem_slots_of_target routed)) repository.interface.name request.method
        request.arguments (repository.peers_interior request.method peers) worked
      let outcome := repository.closing request world (ending, core, within)
      refine ⟨?_, deep, outcome.2.1, outcome.2.2, ?_, ⟨still.steady, still.calm, peers.same⟩, ?_⟩
      · cases ending <;> trivial
      · intro larger le
        have answers := record_of_target_ok (directory.restores_record larger)
          (directory.oblivious_record larger) repository request routed world
        simp only [ends larger le, Option.map_some] at answers
        exact answers
      · have opens := repository.match_openInvocation request.method before world
        rw [Invocation.Match] at opens
        simp only [outcome, closing, Journal.essence, around, agree, opens]

end Repository
end Echoes

/-- Calls do the same in peer worlds, however deep they nest other calls. -/
theorem Directory.echoedBy_record {directory : Directory σ} (steady : directory.Steady made)
    (depth : Nat) (request : Call) :
    (directory.record depth request).EchoedBy made (fun _ => True) (directory.record · request) := by
  induction depth generalizing request with
  | zero =>
      intro before world ending after journal _ ran
      cases ran
  | succ depth ih =>
      intro before world ending after journal peers ran
      obtain ⟨satisfies, bound, reached, record, ends, still, agree⟩ :=
        Repository.echoedBy_record steady ih _ request (steady request.repository) peers ran
      refine ⟨satisfies, bound + 1, reached, record, ?_, still, agree⟩
      intro larger le
      cases larger with
      | zero => omega
      | succ larger => exact ends larger (by omega)

end FragmentAssembly
