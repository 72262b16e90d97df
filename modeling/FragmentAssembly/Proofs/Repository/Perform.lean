import FragmentAssembly.Repository.Execution

/-!
# Calls as blocks

A call in either style is one block: it enters surroundings that answer for the call, runs the fragment
there, and leaves them. The styles differ in the store that answers, not in the answer.
-/

namespace FragmentAssembly

variable {σ : Type}

namespace Run

variable {α : Type}

/-- A run with a value in the slot of the thread has the rest of its surroundings unchanged. -/
theorem withThread_eq (slot : ThreadSlot) (body : Run σ α) (world : World σ) :
    withThread slot body world =
      (body { world with surroundings := { world.surroundings with thread := slot } }).map
        fun (ending, after) =>
          (ending,
            { after with
              surroundings := { after.surroundings with thread := world.surroundings.thread } }) := by
  simp only [withThread, World.install, Surroundings.install]
  cases body _ with
  | none => rfl
  | some result => rfl

theorem withTask_eq (scope : TaskScope) (body : Run σ α) (world : World σ) :
    withTask scope body world =
      (body { world with surroundings := { world.surroundings with task := scope } }).map
        fun (ending, after) =>
          (ending,
            { after with
              surroundings := { after.surroundings with task := world.surroundings.task } }) := by
  simp only [withTask]
  cases body _ with
  | none => rfl
  | some result => rfl

end Run

namespace Style

/-- What is reported before a call is routed. -/
def notices (style : Style) (interface method : String) : List Notice :=
  match style with
  | .direct => [.calling interface method]
  | .scoped => []

/-- The surroundings in which the fragment of a call runs. -/
def enter (style : Style) (shown : Option Invocation) (outer : Surroundings) : Surroundings :=
  match style with
  | .direct => { outer with thread := .ofInvocation? shown }
  | .scoped => { thread := .unset, task := .ofInvocation? shown }

/-- The surroundings after the fragment of a call has run. -/
def leave (style : Style) (outer inner : Surroundings) : Surroundings :=
  match style with
  | .direct => { inner with thread := outer.thread }
  | .scoped => outer

/-- Inside a call the invocation that it shows is in progress, wherever the call was made. -/
@[simp]
theorem current?_enter (style : Style) (shown : Option Invocation) (outer : Surroundings) :
    (style.enter shown outer).current? = shown := by
  cases style <;> cases shown <;> rfl

@[simp]
theorem current_enter (style : Style) (shown : Option Invocation) (outer : Surroundings) :
    (style.enter shown outer).current = Invocation.reply shown := by
  rw [Surroundings.current, current?_enter]

@[simp]
theorem leave_enter (style : Style) (shown : Option Invocation) (outer : Surroundings) :
    style.leave outer (style.enter shown outer) = outer := by
  cases style <;> rfl

end Style

namespace Repository

theorem openInvocation_cases (repository : Repository σ) (method : Signature) (world : World σ) :
    (repository.exposesMetadata = false ∧ repository.openInvocation method world = (none, world)) ∨
      (repository.exposesMetadata = true ∧
        repository.openInvocation method world =
          (some ⟨repository.interface, method, world.nextInvocation⟩,
            { world with nextInvocation := world.nextInvocation + 1 })) := by
  cases exposes : repository.exposesMetadata with
  | false =>
      left
      exact ⟨rfl, by simp [openInvocation, exposes]⟩
  | true =>
      right
      exact ⟨rfl, by simp [openInvocation, exposes, World.prepare]⟩

theorem surroundings_openInvocation (repository : Repository σ) (method : Signature)
    (world : World σ) :
    (repository.openInvocation method world).2.surroundings = world.surroundings := by
  rcases repository.openInvocation_cases method world with ⟨_, same⟩ | ⟨_, made⟩
  · rw [same]
  · rw [made]

/-- A call reports itself, is routed, and runs the fragment in the surroundings of its style. -/
theorem perform_eq (answer : Call → Run σ Json) (repository : Repository σ) (style : Style)
    (method : Signature) (arguments : List Json) (world : World σ) :
    repository.perform answer style method arguments world =
      let entered := world.report (style.notices repository.interface.name method.display)
      match repository.target method with
      | .error error => some (.failure error, entered)
      | .ok fragment =>
          let (shown, opened) := repository.openInvocation method entered
          (fragment.invoke answer repository.interface.name method arguments
              { opened with surroundings := style.enter shown opened.surroundings }).map
            fun (ending, after) =>
              (ending,
                { after with surroundings := style.leave opened.surroundings after.surroundings }) := by
  cases style
  · simp only [perform, invoke, Style.notices]
    cases repository.target method with
    | error error => rfl
    | ok fragment => exact Run.withThread_eq _ _ _
  · have silent : world.report [] = world := by simp [World.report]
    simp only [perform, invokeScoped, Style.notices, silent]
    cases repository.target method with
    | error error => rfl
    | ok fragment =>
        simp only [Run.withTask_eq, Run.withThread_eq, Option.map_map]
        rfl

end Repository
end FragmentAssembly
