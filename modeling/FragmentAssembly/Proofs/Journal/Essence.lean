import FragmentAssembly.Proofs.Journal.Innermost
import FragmentAssembly.Proofs.Journal.Interchange

/-!
# What runs have in common

Two runs of a call from different worlds number their invocations differently, and an instance that one
of them has to make may exist in the world of the other. They agree in everything else if the
application cannot tell: if implementations only ask for the invocation in progress and call
repositories, without a look at the numbers, and if the factory of a cell ends in the same way whichever
call needs its instance first.
-/

namespace FragmentAssembly

variable {σ α β : Type}

/-! ## Numbers and factories left out -/

namespace Invocation

/-- An invocation with the number that all have in common. -/
def unnumbered (invocation : Invocation) : Invocation :=
  { invocation with id := 0 }

/-- The same invocation but for its number, or no invocation on both sides. -/
def Match (left right : Option Invocation) : Prop :=
  left.map unnumbered = right.map unnumbered

theorem Match.reply {left right : Option Invocation} (same : Match left right) :
    (reply left).map unnumbered = (reply right).map unnumbered := by
  cases left with
  | none =>
      cases right with
      | none => rfl
      | some other => cases same
  | some invocation =>
      cases right with
      | none => cases same
      | some other => exact congrArg Except.ok (Option.some.inj same)

end Invocation

namespace Journal

/-- A journal without the numbers of invocations and without what factories do. -/
def essence : Journal → Journal
  | .done => .done
  | .read answer rest => .read (answer.map Invocation.unnumbered) rest.essence
  | .make _ _ rest => rest.essence
  | .serve typeName method arguments inside rest =>
      .serve typeName method arguments inside.essence rest.essence
  | .refuse request before after rest =>
      .refuse request (before.map Invocation.unnumbered) (after.map Invocation.unnumbered)
        rest.essence
  | .call request before opened inside after rest =>
      .call request (before.map Invocation.unnumbered) (opened.map Invocation.unnumbered)
        inside.essence (after.map Invocation.unnumbered) rest.essence

theorem essence_append (journal later : Journal) :
    (journal.append later).essence = journal.essence.append later.essence := by
  induction journal with
  | done => rfl
  | read answer rest ih => rw [append, essence, essence, append, ih]
  | make typeName inside rest _ ih => rw [append, essence, essence, ih]
  | serve typeName method arguments inside rest _ ih => rw [append, essence, essence, append, ih]
  | refuse request before after rest ih => rw [append, essence, essence, append, ih]
  | call request before opened inside after rest _ ih => rw [append, essence, essence, append, ih]

end Journal

/-! ## Applications that cannot tell -/

/-- A program only asks for the invocation in progress and calls repositories, and what it does does not
depend on numbers of invocations. -/
def Program.Blind : Program σ α → Prop
  | .finish _ => True
  | .current next =>
      (∀ shown, (next shown).Blind) ∧
        ∀ left right, Invocation.Match left right → next left = next right
  | .prepare _ _ next =>
      (∀ invocation, (next invocation).Blind) ∧
        ∀ left right, left.unnumbered = right.unnumbered → next left = next right
  | .enter _ _ => False
  | .suppress _ => False
  | .release _ => False
  | .read _ => False
  | .write _ _ => False
  | .call _ next => ∀ ending, (next ending).Blind

/-- No method looks at anything but the invocation in progress and the results of calls. -/
def Implementation.Blind (implementation : Implementation σ) : Prop :=
  ∀ method arguments, (implementation.invoke method arguments).Blind

/-- Every cell is empty or holds the instance that its uses come to. -/
def World.Steady (made : Nat → Ending (Implementation σ)) (world : World σ) : Prop :=
  ∀ cell implementation, world.instances.content? cell = some implementation →
    made cell = .value implementation

/-- In all steady worlds a program ends in one way, whatever is in progress there. It may do so at a
different depth in each of them. -/
def Program.Settles (directory : Directory σ) (made : Nat → Ending (Implementation σ))
    (program : Program σ α) (ending : Ending α) : Prop :=
  ∀ ⦃before : World σ⦄, before.Steady made →
    ∃ bound after journal, ∀ larger, bound ≤ larger →
      program.record (directory.record larger) [] before = some (ending, after, journal)

/-- What the use of an empty cell comes to if its factory ends in a given way. -/
def Ending.checked (contract : Contract) : Ending (Implementation σ) → Ending (Implementation σ)
  | .value implementation =>
      if implementation.satisfies contract then .value implementation
      else .failure (implementation.unsatisfied contract)
  | .failure error => .failure error
  | .abort message => .abort message

/-- The instance of a binding is blind. A factory ends in one way, which is the one that uses of its cell
come to. -/
def Binding.Steady (directory : Directory σ) (made : Nat → Ending (Implementation σ))
    (contract : Contract) : Binding σ → Prop
  | .eager implementation => implementation.Blind
  | .deferred source =>
      (∃ ending, source.factory.Settles directory made ending ∧
          made source.cell = ending.checked contract) ∧
        ∀ implementation, made source.cell = .value implementation → implementation.Blind

/-- All fragments of all repositories have steady bindings or none. -/
def Directory.Steady (made : Nat → Ending (Implementation σ)) (directory : Directory σ) : Prop :=
  ∀ name, ∀ fragment ∈ (directory name).composition.slots, ∀ binding,
    fragment.binding = some binding → binding.Steady directory made fragment.contract

/-! ## Steady worlds -/

section Steady

variable {directory : Directory σ} {made : Nat → Ending (Implementation σ)}

theorem World.Steady.fill {world : World σ} (steady : world.Steady made) {cell : Nat}
    {implementation : Implementation σ} (meant : made cell = .value implementation) :
    (world.fill cell implementation).Steady made := by
  intro other content found
  simp only [World.fill, Cells.fill] at found
  split at found
  · rename_i same
    cases found
    rw [same]
    exact meant
  · exact steady other content found

/-- However deep it nests calls, a program that settles ends as it settles. -/
theorem Program.Settles.eq_of_ends {program : Program σ α} {ending ended : Ending α}
    (settles : program.Settles directory made ending) {before after : World σ} {depth : Nat}
    {journal : Journal} (steady : before.Steady made)
    (ran : program.record (directory.record depth) [] before = some (ended, after, journal)) :
    ended = ending := by
  obtain ⟨bound, reached, record, ends⟩ := settles steady
  have extended := Program.extendedBy_record
    (directory.extendedBy_record_of_le (Nat.le_max_right bound depth)) program [] ran
  rw [ends _ (Nat.le_max_left bound depth)] at extended
  cases extended
  rfl

namespace Recorded

/-- The run leads from steady worlds to steady worlds. -/
def Steadies (made : Nat → Ending (Implementation σ)) (recorded : Recorded σ α) : Prop :=
  ∀ ⦃before ending after journal⦄, before.Steady made →
    recorded before = some (ending, after, journal) → after.Steady made

theorem steadies_stop (ending : Ending α) :
    (silent (.stop ending) : Recorded σ α).Steadies made := by
  intro before ended after journal steady ran
  cases ran
  exact steady

theorem Steadies.within {recorded : Recorded σ α} (steadies : recorded.Steadies made)
    (entry : Journal → Journal) : (within entry recorded).Steadies made := by
  intro before ending after journal steady ran
  obtain ⟨inside, inner, -⟩ := ends_of_within ran
  exact steadies steady inner

theorem Steadies.bind {first : Recorded σ α} {second : α → Recorded σ β}
    (begins : first.Steadies made) (continues : ∀ result, (second result).Steadies made) :
    (first.bind second).Steadies made := by
  intro before ending after journal steady ran
  rcases bind_cases ran with ⟨result, middle, earlier, later, began, went, -⟩ | ⟨error, began, -⟩ |
    ⟨message, began, -⟩
  · exact continues result (begins steady began) went
  · exact begins steady began
  · exact begins steady began

end Recorded

theorem Program.steadies_record {answer : Call → Recorded σ Json}
    (steadies : ∀ request, (answer request).Steadies made) (program : Program σ α)
    (guards : List Guard) : (program.record answer guards).Steadies made := by
  intro before ending after journal steady ran
  induction program generalizing guards before journal with
  | finish ended =>
      cases ran
      exact steady
  | current next ih =>
      obtain ⟨rest, continued, -⟩ := Recorded.ends_of_within ran
      exact ih _ guards steady continued
  | prepare interface method next ih =>
      have prepared : (before.prepare interface method).2.Steady made := steady
      exact ih _ guards prepared ran
  | enter invocation next ih =>
      have installed : (before.install (.active invocation)).2.Steady made := steady
      exact ih _ installed ran
  | suppress next ih =>
      have installed : (before.install .hidden).2.Steady made := steady
      exact ih _ installed ran
  | release next ih =>
      cases guards with
      | nil => exact ih [] steady ran
      | cons guard others =>
          have released : (before.release guard).Steady made := steady
          exact ih others released ran
  | read next ih => exact ih _ guards steady ran
  | write state next ih =>
      have written : World.Steady made { before with state } := steady
      exact ih guards written ran
  | call request next ih =>
      obtain ⟨answered, middle, opening, rest, called, continued, -⟩ := record_call_cases ran
      exact ih _ guards (steadies request steady called) continued

variable {depth : Nat} (steadies : ∀ request, (directory.record depth request).Steadies made)

include steadies

namespace Fragment

/-- Uses of a cell come to what they are meant to come to, whether its instance exists or not. -/
theorem ends_of_recordMaterialize {contract : Contract} {source : Deferred σ}
    (bound : (Binding.deferred source).Steady directory made contract) {before after : World σ}
    {ending : Ending (Implementation σ)} {journal : Journal} (steady : before.Steady made)
    (ran : recordMaterialize (directory.record depth) contract source before =
      some (ending, after, journal)) :
    ending = made source.cell ∧ after.Steady made ∧ journal.essence = .done := by
  obtain ⟨⟨settled, settles, comes⟩, -⟩ := bound
  rw [recordMaterialize] at ran
  cases content : before.instances.content? source.cell with
  | some implementation =>
      rw [content] at ran
      cases ran
      exact ⟨(steady _ _ content).symm, steady, rfl⟩
  | none =>
      rw [content] at ran
      have reported : (before.report [.materializing source.typeName contract.name]).Steady made :=
        steady
      have built := (Program.steadies_record steadies source.factory []).within
        (.make source.typeName · .done)
      rcases Recorded.bind_cases ran with
        ⟨implementation, middle, earlier, later, first, second, rfl⟩ | ⟨error, first, rfl⟩ |
          ⟨message, first, rfl⟩
      · have still := built reported first
        obtain ⟨inside, worked, rfl⟩ := Recorded.ends_of_within first
        obtain rfl := settles.eq_of_ends reported worked
        rw [Ending.checked] at comes
        rw [Recorded.silent, keep] at second
        split at second
        · rename_i satisfied
          rw [if_pos satisfied] at comes
          cases second
          exact ⟨comes.symm, still.fill comes, rfl⟩
        · rename_i unsatisfied
          rw [if_neg unsatisfied] at comes
          cases second
          exact ⟨comes.symm, still, rfl⟩
      · have still := built reported first
        obtain ⟨inside, worked, rfl⟩ := Recorded.ends_of_within first
        obtain rfl := settles.eq_of_ends reported worked
        exact ⟨comes.symm, still, rfl⟩
      · have still := built reported first
        obtain ⟨inside, worked, rfl⟩ := Recorded.ends_of_within first
        obtain rfl := settles.eq_of_ends reported worked
        exact ⟨comes.symm, still, rfl⟩

theorem steadies_recordInvoke {fragment : Fragment σ}
    (bound : ∀ binding, fragment.binding = some binding →
      binding.Steady directory made fragment.contract)
    (interface : String) (method : Signature) (arguments : List Json) :
    (fragment.recordInvoke (directory.record depth) interface method arguments).Steadies made := by
  refine Recorded.Steadies.bind ?_ ?_
  · rw [recordImplementation]
    cases binds : fragment.binding with
    | none => exact Recorded.steadies_stop _
    | some binding =>
        cases binding with
        | eager implementation => exact Recorded.steadies_stop _
        | deferred source =>
            refine Recorded.Steadies.bind ?_ fun _ => Recorded.steadies_stop _
            intro before ending after journal steady ran
            exact (ends_of_recordMaterialize steadies (bound _ binds) steady ran).2.1
  · rintro (_ | implementation)
    · exact Recorded.steadies_stop _
    · have works := Program.steadies_record steadies (implementation.invoke method arguments) []
      exact works.within (.serve implementation.typeName method arguments · .done)

end Fragment

theorem Repository.steadies_record (repository : Repository σ) (request : Call)
    (bound : ∀ fragment ∈ repository.composition.slots, ∀ binding,
      fragment.binding = some binding → binding.Steady directory made fragment.contract) :
    (repository.record (directory.record depth) request).Steadies made := by
  intro before ending after journal steady ran
  rw [record] at ran
  cases routed : repository.target request.method with
  | error error =>
      simp only [routed] at ran
      cases ran
      exact steady
  | ok fragment =>
      simp only [routed] at ran
      have opening := repository.opening_openInvocation request.method
        (before.report (request.style.notices repository.interface.name request.method.display))
      generalize repository.openInvocation request.method _ = result at opening ran
      obtain ⟨shown, opened⟩ := result
      obtain ⟨⟨ended, inner, inside⟩, worked, same⟩ := Option.map_eq_some_iff.mp ran
      cases same
      have entered : World.Steady made
          { opened with surroundings := request.style.enter shown opened.surroundings } := by
        rw [World.Steady, opening.instances]
        exact steady
      have still := Fragment.steadies_recordInvoke steadies
        (bound fragment (mem_slots_of_target routed)) _ _ _ entered worked
      exact still

end Steady

/-- Calls lead from steady worlds to steady worlds, however deep they nest. -/
theorem Directory.steadies_record {directory : Directory σ} {made : Nat → Ending (Implementation σ)}
    (steady : directory.Steady made) (depth : Nat) (request : Call) :
    (directory.record depth request).Steadies made := by
  induction depth generalizing request with
  | zero =>
      intro before ending after journal _ ran
      cases ran
  | succ depth ih => exact Repository.steadies_record ih _ request (steady request.repository)

end FragmentAssembly
