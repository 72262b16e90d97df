import FragmentAssembly.Proofs.Invocation.Restoration
import FragmentAssembly.Proofs.Tasks.Basic

/-!
# Polls restore their surroundings

When a poll is over, the slot of the thread and the scope of the task are what they were before it,
whether the task has ended or is suspended, and in how many scopes it is suspended. So a task finds at
each of its polls what it has left behind itself at the one before, as if no other task had been polled
in between.
-/

namespace FragmentAssembly

variable {σ ι : Type}

namespace Block

@[simp]
theorem enter_ofInvocation? (shown : Option Invocation) (outer : Surroundings) :
    (ofInvocation? shown).enter outer = { outer with task := .ofInvocation? shown } := by
  cases shown with
  | none => rfl
  | some invocation => rfl

@[simp]
theorem leave_enter_ofInvocation? (shown : Option Invocation) (outer : Surroundings) :
    (ofInvocation? shown).leave outer ((ofInvocation? shown).enter outer) = outer := by
  cases shown with
  | none => rfl
  | some invocation => rfl

end Block

/-- Behind a block whose work restores its surroundings, the surroundings are those from before. -/
theorem World.surroundings_leave {world inner : World σ} {shown : Option Invocation}
    (restored : inner.surroundings = (world.enter (.ofInvocation? shown)).surroundings) :
    (inner.leave (.ofInvocation? shown) world).surroundings = world.surroundings := by
  rw [leave, restored]
  exact Block.leave_enter_ofInvocation? shown world.surroundings

namespace Task

section Polls

variable {answer : Call → Recorded σ Json} (restores : ∀ request, (answer request).forget.Restores)

include restores

/-- A poll restores its surroundings. -/
theorem surroundings_poll (task : Task) {world after : World σ} {progress : Progress}
    {transcript : Transcript} (ran : task.poll answer world = some (progress, after, transcript)) :
    after.surroundings = world.surroundings := by
  induction task generalizing world progress after transcript with
  | finish ending =>
      cases ran
      rfl
  | suspend next ih =>
      cases ran
      rfl
  | current next ih =>
      obtain ⟨rest, continued, -⟩ := Polled.ends_of_within ran
      exact ih _ continued
  | prepare interface method next ih =>
      have restored := ih _ ran
      exact restored
  | call request next ih =>
      obtain ⟨ending, middle, journal, rest, called, continued, -⟩ := poll_call_cases ran
      rw [ih ending continued, restores request (Recorded.forget_eq_some called)]
  | block shown body next within behind =>
      rcases poll_block_cases ran with ⟨later, inner, inside, worked, -, rfl, -⟩ |
        ⟨ending, inner, inside, rest, worked, continued, -⟩
      · exact World.surroundings_leave (within worked)
      · rw [behind ending continued, World.surroundings_leave (within worked)]

variable [DecidableEq ι]

/-- Between turns the surroundings are those from the start. -/
theorem surroundings_interleave {tasks : ι → Task} {schedule : List ι} {world : World σ}
    {history : List (Turn ι σ)} (ran : interleave answer tasks schedule world = some history) :
    ∀ turn ∈ history,
      turn.before.surroundings = world.surroundings ∧ turn.after.surroundings = world.surroundings := by
  induction schedule generalizing tasks world history with
  | nil =>
      rw [interleave_nil] at ran
      cases ran
      exact List.forall_mem_nil _
  | cons index schedule ih =>
      obtain ⟨progress, after, transcript, later, polled, continued, rfl⟩ := interleave_cons_cases ran
      have restored := surroundings_poll restores (tasks index) polled
      rw [List.forall_mem_cons]
      refine ⟨⟨rfl, restored⟩, ?_⟩
      intro turn member
      rw [← restored]
      exact ih continued turn member

end Polls

/-- Poll one task in given worlds. At each poll it finds the surroundings that it has left at the one
before, and everything else as given. -/
def alone (answer : Call → Recorded σ Json) :
    Task → Surroundings → List (World σ) → Option (List (Progress × Transcript))
  | _, _, [] => some []
  | task, surroundings, world :: worlds =>
      match task.poll answer { world with surroundings } with
      | none => none
      | some (progress, after, transcript) =>
          (alone answer progress.task after.surroundings worlds).map ((progress, transcript) :: ·)

variable [DecidableEq ι]

theorem advance_of_ne {tasks : ι → Task} {index other : ι} (different : other ≠ index)
    (progress : Progress) : advance tasks index progress other = tasks other :=
  if_neg different

theorem advance_self (tasks : ι → Task) (index : ι) (progress : Progress) :
    advance tasks index progress index = progress.task :=
  if_pos rfl

/-- No task can tell from its surroundings that there are others. -/
theorem alone_of_interleave {answer : Call → Recorded σ Json}
    (restores : ∀ request, (answer request).forget.Restores) {tasks : ι → Task} {schedule : List ι}
    {world : World σ} {history : List (Turn ι σ)}
    (ran : interleave answer tasks schedule world = some history) (index : ι) :
    (tasks index).alone answer world.surroundings ((Turn.of index history).map Turn.before) =
      some ((Turn.of index history).map fun turn => (turn.progress, turn.transcript)) := by
  induction schedule generalizing tasks world history with
  | nil =>
      rw [interleave_nil] at ran
      cases ran
      rfl
  | cons polled schedule ih =>
      obtain ⟨progress, after, transcript, later, first, continued, rfl⟩ := interleave_cons_cases ran
      have restored := surroundings_poll restores (tasks polled) first
      have others := ih continued
      rw [restored] at others
      by_cases same : polled = index
      · subst same
        rw [advance_self] at others
        have own := Turn.of_cons_self ⟨polled, world, progress, after, transcript⟩ later
        rw [own, List.map_cons, List.map_cons, alone, first]
        simp only [restored, others, Option.map_some]
      · rw [advance_of_ne (Ne.symm same)] at others
        have foreign := Turn.of_cons_of_ne ⟨polled, world, progress, after, transcript⟩ later same
        rw [foreign, others]

end Task
end FragmentAssembly
