import FragmentAssembly.Proofs.Invocation.Restoration
import FragmentAssembly.Proofs.Journal.Basic

/-!
# Recorded runs

A recorded run does what the run does and keeps a journal. Each way to run something has a recorded form
here, and forgetting the journal of the recorded form gives the run itself.
-/

namespace FragmentAssembly

variable {σ α β : Type}

/-- A run that keeps a journal. -/
abbrev Recorded (σ α : Type) := World σ → Option (Ending α × World σ × Journal)

namespace Recorded

/-- The run without its journal. -/
def forget (recorded : Recorded σ α) : Run σ α := fun world =>
  (recorded world).map fun (ending, after, _) => (ending, after)

/-- A run in which nothing happens that a journal keeps. -/
def silent (run : Run σ α) : Recorded σ α := fun world =>
  (run world).map fun (ending, after) => (ending, after, .done)

/-- Make a journal from the journal of a run. -/
def within (entry : Journal → Journal) (recorded : Recorded σ α) : Recorded σ α := fun world =>
  (recorded world).map fun (ending, after, inside) => (ending, after, entry inside)

/-- Run a second stage on the result of a first one. -/
def bind (first : Recorded σ α) (second : α → Recorded σ β) : Recorded σ β := fun world =>
  match first world with
  | none => none
  | some (.value result, middle, journal) => within journal.append (second result) middle
  | some (.failure error, after, journal) => some (.failure error, after, journal)
  | some (.abort message, after, journal) => some (.abort message, after, journal)

@[simp]
theorem forget_silent (run : Run σ α) : (silent run).forget = run := by
  funext world
  rw [forget, silent, Option.map_map]
  exact Option.map_id_fun' (α := Ending α × World σ) ▸ rfl

@[simp]
theorem forget_within (entry : Journal → Journal) (recorded : Recorded σ α) :
    (within entry recorded).forget = recorded.forget := by
  funext world
  rw [forget, within, Option.map_map]
  rfl

@[simp]
theorem forget_bind (first : Recorded σ α) (second : α → Recorded σ β) :
    (first.bind second).forget = first.forget.bind fun result => (second result).forget := by
  funext world
  rw [forget, bind, Run.bind, forget]
  rcases first world with _ | ⟨result | error | message, middle, journal⟩
  · rfl
  · exact congrFun (forget_within journal.append (second result)) middle
  · rfl
  · rfl

theorem exists_journal {recorded : Recorded σ α} {world after : World σ} {ending : Ending α}
    (ends : recorded.forget world = some (ending, after)) :
    ∃ journal, recorded world = some (ending, after, journal) := by
  obtain ⟨⟨ended, reached, journal⟩, ran, same⟩ := Option.map_eq_some_iff.mp ends
  cases same
  exact ⟨journal, ran⟩

theorem forget_eq_some {recorded : Recorded σ α} {world after : World σ} {ending : Ending α}
    {journal : Journal} (ran : recorded world = some (ending, after, journal)) :
    recorded.forget world = some (ending, after) := by
  rw [forget, ran]
  rfl

theorem ends_of_within {entry : Journal → Journal} {recorded : Recorded σ α} {world after : World σ}
    {ending : Ending α} {journal : Journal}
    (ran : within entry recorded world = some (ending, after, journal)) :
    ∃ inside, recorded world = some (ending, after, inside) ∧ journal = entry inside := by
  obtain ⟨⟨_, _, inside⟩, inner, same⟩ := Option.map_eq_some_iff.mp ran
  cases same
  exact ⟨inside, inner, rfl⟩

/-- A sequence of two stages ends with its second stage, or early with its first one. -/
theorem bind_cases {first : Recorded σ α} {second : α → Recorded σ β} {world after : World σ}
    {ending : Ending β} {journal : Journal}
    (ran : first.bind second world = some (ending, after, journal)) :
    (∃ result middle earlier later,
        first world = some (.value result, middle, earlier) ∧
          second result middle = some (ending, after, later) ∧ journal = earlier.append later) ∨
      (∃ error, first world = some (.failure error, after, journal) ∧ ending = .failure error) ∨
      ∃ message, first world = some (.abort message, after, journal) ∧ ending = .abort message := by
  rw [bind] at ran
  cases began : first world with
  | none => simp [began] at ran
  | some reached =>
      obtain ⟨ended, middle, earlier⟩ := reached
      rw [began] at ran
      cases ended with
      | value result =>
          obtain ⟨later, continued, rfl⟩ := ends_of_within ran
          exact .inl ⟨result, middle, earlier, later, rfl, continued, rfl⟩
      | failure error =>
          cases ran
          exact .inr (.inl ⟨error, rfl, rfl⟩)
      | abort message =>
          cases ran
          exact .inr (.inr ⟨message, rfl, rfl⟩)

end Recorded

/-- Run a program and record what it asks for and which calls it makes. -/
def Program.record (answer : Call → Recorded σ Json) (guards : List Guard) :
    Program σ α → Recorded σ α
  | .finish ending => fun world => some (ending, world.releaseAll guards, .done)
  | .current next => fun world =>
      Recorded.within (.read world.surroundings.current)
        ((next world.surroundings.current?).record answer guards) world
  | .prepare interface method next => fun world =>
      let (invocation, world) := world.prepare interface method
      (next invocation).record answer guards world
  | .enter invocation next => fun world =>
      let (guard, world) := world.install (.active invocation)
      next.record answer (guard :: guards) world
  | .suppress next => fun world =>
      let (guard, world) := world.install .hidden
      next.record answer (guard :: guards) world
  | .release next => fun world =>
      match guards with
      | [] => next.record answer [] world
      | guard :: others => next.record answer others (world.release guard)
  | .read next => fun world => (next world.state).record answer guards world
  | .write state next => fun world => next.record answer guards { world with state }
  | .call request next => fun world =>
      match answer request world with
      | none => none
      | some (ending, world, journal) =>
          Recorded.within journal.append ((next ending).record answer guards) world

theorem Program.record_call_cases {answer : Call → Recorded σ Json} {guards : List Guard}
    {request : Call} {next : Ending Json → Program σ α} {before after : World σ} {ending : Ending α}
    {journal : Journal}
    (ran : (Program.call request next).record answer guards before = some (ending, after, journal)) :
    ∃ answered middle opening rest,
      answer request before = some (answered, middle, opening) ∧
        (next answered).record answer guards middle = some (ending, after, rest) ∧
        journal = opening.append rest := by
  simp only [record] at ran
  split at ran
  · cases ran
  · rename_i answered middle opening called
    obtain ⟨rest, continued, rfl⟩ := Recorded.ends_of_within ran
    exact ⟨answered, middle, opening, rest, called, continued, rfl⟩

theorem Program.forget_record (answer : Call → Recorded σ Json) (guards : List Guard)
    (program : Program σ α) :
    (program.record answer guards).forget =
      program.run (fun request => (answer request).forget) guards := by
  funext world
  induction program generalizing guards world with
  | finish ending => rfl
  | current next ih =>
      have forgotten := congrFun (Recorded.forget_within (.read world.surroundings.current)
        ((next world.surroundings.current?).record answer guards)) world
      exact forgotten.trans (ih _ guards world)
  | prepare interface method next ih => exact ih _ guards _
  | enter invocation next ih => exact ih _ _
  | suppress next ih => exact ih _ _
  | release next ih =>
      cases guards with
      | nil => exact ih [] world
      | cons guard others => exact ih others _
  | read next ih => exact ih _ guards world
  | write state next ih => exact ih guards _
  | call request next ih =>
      simp only [run, Recorded.forget, record]
      rcases answer request world with _ | ⟨ended, middle, journal⟩
      · rfl
      · have forgotten := congrFun (Recorded.forget_within journal.append
          ((next ended).record answer guards)) middle
        exact forgotten.trans (ih ended guards middle)

namespace Fragment

/-- Make the instance of a cell and record the factory that runs for it. -/
def recordMaterialize (answer : Call → Recorded σ Json) (contract : Contract) (source : Deferred σ) :
    Recorded σ (Implementation σ) := fun world =>
  match world.instances.content? source.cell with
  | some implementation => some (.value implementation, world, .done)
  | none =>
      Recorded.bind
        (Recorded.within (.make source.typeName · .done) (source.factory.record answer []))
        (fun implementation => .silent (keep contract source implementation))
        (world.report [.materializing source.typeName contract.name])

/-- Find the instance of a fragment and record the factory that runs for it, if one does. -/
def recordImplementation (answer : Call → Recorded σ Json) (fragment : Fragment σ) :
    Recorded σ (Option (Implementation σ)) :=
  match fragment.binding with
  | none => .silent (.stop (.value none))
  | some (.eager implementation) => .silent (.stop (.value (some implementation)))
  | some (.deferred source) =>
      (recordMaterialize answer fragment.contract source).bind fun implementation =>
        .silent (.stop (.value (some implementation)))

/-- Let an instance work and record it. -/
def recordServe (answer : Call → Recorded σ Json) (fragment : Fragment σ) (interface : String)
    (method : Signature) (arguments : List Json) : Option (Implementation σ) → Recorded σ Json
  | some implementation =>
      Recorded.within (.serve implementation.typeName method arguments · .done)
        ((implementation.invoke method arguments).record answer [])
  | none => .silent (.stop (.failure (.noImplementation interface fragment.contract)))

/-- Call a method of a fragment and record what runs for it. -/
def recordInvoke (answer : Call → Recorded σ Json) (fragment : Fragment σ) (interface : String)
    (method : Signature) (arguments : List Json) : Recorded σ Json :=
  (fragment.recordImplementation answer).bind
    (fragment.recordServe answer interface method arguments)

theorem forget_recordMaterialize (answer : Call → Recorded σ Json) (contract : Contract)
    (source : Deferred σ) :
    (recordMaterialize answer contract source).forget =
      materialize (fun request => (answer request).forget) contract source := by
  funext world
  rw [materialize_eq, Recorded.forget, recordMaterialize]
  cases world.instances.content? source.cell with
  | some implementation => rfl
  | none =>
      have forgotten := Recorded.forget_bind
        (Recorded.within (.make source.typeName · .done) (source.factory.record answer []))
        (fun implementation => .silent (keep contract source implementation))
      simp only [Recorded.forget_within, Recorded.forget_silent, Program.forget_record] at forgotten
      exact congrFun forgotten _

theorem forget_recordImplementation (answer : Call → Recorded σ Json) (fragment : Fragment σ) :
    (fragment.recordImplementation answer).forget =
      fragment.implementation fun request => (answer request).forget := by
  rw [implementation_eq, recordImplementation]
  cases fragment.binding with
  | none => exact Recorded.forget_silent _
  | some binding =>
      cases binding with
      | eager implementation => exact Recorded.forget_silent _
      | deferred source =>
          simp only [Recorded.forget_bind, Recorded.forget_silent, forget_recordMaterialize]

theorem forget_recordServe (answer : Call → Recorded σ Json) (fragment : Fragment σ)
    (interface : String) (method : Signature) (arguments : List Json)
    (found : Option (Implementation σ)) :
    (fragment.recordServe answer interface method arguments found).forget =
      fragment.serve (fun request => (answer request).forget) interface method arguments found := by
  cases found with
  | none => exact Recorded.forget_silent _
  | some implementation =>
      rw [recordServe, Recorded.forget_within, Program.forget_record]
      rfl

theorem forget_recordInvoke (answer : Call → Recorded σ Json) (fragment : Fragment σ)
    (interface : String) (method : Signature) (arguments : List Json) :
    (fragment.recordInvoke answer interface method arguments).forget =
      fragment.invoke (fun request => (answer request).forget) interface method arguments := by
  rw [invoke_eq, recordInvoke, Recorded.forget_bind, forget_recordImplementation]
  simp only [forget_recordServe]

end Fragment

/-- Call a repository and record the call, with the answers of the surroundings around it. -/
def Repository.record (answer : Call → Recorded σ Json) (repository : Repository σ) (request : Call) :
    Recorded σ Json := fun world =>
  let before := world.surroundings.current
  let entered := world.report (request.style.notices repository.interface.name request.method.display)
  match repository.target request.method with
  | .error error =>
      some (.failure error, entered, .refuse request before entered.surroundings.current .done)
  | .ok fragment =>
      let (shown, opened) := repository.openInvocation request.method entered
      (fragment.recordInvoke answer repository.interface.name request.method request.arguments
          { opened with surroundings := request.style.enter shown opened.surroundings }).map
        fun (ending, inner, inside) =>
          let after : World σ :=
            { inner with
              surroundings := request.style.leave opened.surroundings inner.surroundings }
          (ending, after, .call request before shown inside after.surroundings.current .done)

theorem Repository.forget_record (answer : Call → Recorded σ Json) (repository : Repository σ)
    (request : Call) :
    (repository.record answer request).forget =
      repository.perform (fun request => (answer request).forget) request.style request.method
        request.arguments := by
  funext world
  rw [perform_eq, Recorded.forget, record]
  cases repository.target request.method with
  | error error => rfl
  | ok fragment =>
      simp only [← Fragment.forget_recordInvoke, Recorded.forget, Option.map_map]
      rfl

/-- Record a call that nests other calls at most to a depth. -/
def Directory.record (directory : Directory σ) : Nat → Call → Recorded σ Json
  | 0, _ => fun _ => none
  | depth + 1, request => (directory request.repository).record (directory.record depth) request

theorem Directory.forget_record (directory : Directory σ) (depth : Nat) (request : Call) :
    (directory.record depth request).forget = directory.answer depth request := by
  induction depth generalizing request with
  | zero => rfl
  | succ depth ih =>
      rw [record, Repository.forget_record, answer]
      simp only [ih]

theorem Directory.restores_record (directory : Directory σ) (depth : Nat) (request : Call) :
    (directory.record depth request).forget.Restores := by
  rw [forget_record]
  exact restores_answer directory depth request

end FragmentAssembly
