import FragmentAssembly.Proofs.Journal.Depth

/-!
# Tasks that take turns

The tasks of a thread take turns. A task that is polled goes on until it is suspended or ends; then the
thread may poll another one. Work in a scope of the task can be suspended too. The scope is entered when
the work is polled and left when the poll is over, so that it shows its invocation to this work only.
-/

namespace FragmentAssembly

variable {σ ι : Type}

/-- The block of a scope that shows an invocation, or hides every invocation. -/
def Block.ofInvocation? : Option Invocation → Block
  | some invocation => .scope invocation
  | none => .absence

/-- What is left to do for a task. -/
inductive Task where
  /-- End. -/
  | finish (ending : Ending Json)
  /-- Wait for the next poll. -/
  | suspend (next : Task)
  /-- Ask for the invocation in progress. -/
  | current (next : Option Invocation → Task)
  /-- Make an invocation of a method, without showing it to anyone. -/
  | prepare (interface : Interface) (method : Signature) (next : Invocation → Task)
  /-- Call a repository and see how the call ends. -/
  | call (request : Call) (next : Ending Json → Task)
  /-- Work in a scope of the task and see how the work ends. -/
  | block (shown : Option Invocation) (body : Task) (next : Ending Json → Task)

/-- How a poll leaves a task. -/
inductive Progress where
  /-- The task has ended. -/
  | finished (ending : Ending Json)
  /-- The task is suspended. -/
  | waiting (task : Task)

/-- What is left to do for a task after a poll. -/
def Progress.task : Progress → Task
  | .finished ending => .finish ending
  | .waiting task => task

/-- What an observer writes down while a task is polled: what it reads, the journals of its calls, and
its scopes with what it does in them. -/
inductive Transcript where
  /-- Nothing more happens. -/
  | done
  /-- The invocation in progress is asked for. -/
  | read (answer : Except Error Invocation) (rest : Transcript)
  /-- A repository is called. -/
  | call (request : Call) (journal : Journal) (rest : Transcript)
  /-- A scope is entered, and left after what happens inside. -/
  | block (shown : Option Invocation) (inside rest : Transcript)

/-- A poll of a task. -/
abbrev Polled (σ : Type) := World σ → Option (Progress × World σ × Transcript)

namespace Polled

/-- Make a transcript from the transcript of a poll. -/
def within (entry : Transcript → Transcript) (polled : Polled σ) : Polled σ := fun world =>
  (polled world).map fun (progress, after, rest) => (progress, after, entry rest)

theorem ends_of_within {entry : Transcript → Transcript} {polled : Polled σ} {world after : World σ}
    {progress : Progress} {transcript : Transcript}
    (ran : within entry polled world = some (progress, after, transcript)) :
    ∃ rest, polled world = some (progress, after, rest) ∧ transcript = entry rest := by
  obtain ⟨⟨reached, last, rest⟩, inner, same⟩ := Option.map_eq_some_iff.mp ran
  cases same
  exact ⟨rest, inner, rfl⟩

end Polled

namespace World

/-- The world inside of a block. -/
def enter (world : World σ) (block : Block) : World σ :=
  { world with surroundings := block.enter world.surroundings }

/-- The world behind a block, from the worlds before it and at its end. -/
def leave (inner : World σ) (block : Block) (outer : World σ) : World σ :=
  { inner with surroundings := block.leave outer.surroundings inner.surroundings }

end World

namespace Task

/-- Poll a task. A scope with work that is suspended is left, and the next poll enters it again. -/
def poll (answer : Call → Recorded σ Json) : Task → Polled σ
  | .finish ending => fun world => some (.finished ending, world, .done)
  | .suspend next => fun world => some (.waiting next, world, .done)
  | .current next => fun world =>
      Polled.within (.read world.surroundings.current)
        ((next world.surroundings.current?).poll answer) world
  | .prepare interface method next => fun world =>
      let (invocation, world) := world.prepare interface method
      (next invocation).poll answer world
  | .call request next => fun world =>
      match answer request world with
      | none => none
      | some (ending, world, journal) =>
          Polled.within (.call request journal) ((next ending).poll answer) world
  | .block shown body next => fun world =>
      match body.poll answer (world.enter (.ofInvocation? shown)) with
      | none => none
      | some (.waiting later, inner, inside) =>
          some
            (.waiting (.block shown later next), inner.leave (.ofInvocation? shown) world,
              .block shown inside .done)
      | some (.finished ending, inner, inside) =>
          Polled.within (.block shown inside) ((next ending).poll answer)
            (inner.leave (.ofInvocation? shown) world)

theorem poll_block_cases {answer : Call → Recorded σ Json} {shown : Option Invocation} {body : Task}
    {next : Ending Json → Task} {world after : World σ} {progress : Progress} {transcript : Transcript}
    (ran : (Task.block shown body next).poll answer world = some (progress, after, transcript)) :
    (∃ later inner inside,
        body.poll answer (world.enter (.ofInvocation? shown)) = some (.waiting later, inner, inside) ∧
          progress = .waiting (.block shown later next) ∧
          after = inner.leave (.ofInvocation? shown) world ∧
          transcript = .block shown inside .done) ∨
      ∃ ending inner inside rest,
        body.poll answer (world.enter (.ofInvocation? shown)) =
            some (.finished ending, inner, inside) ∧
          (next ending).poll answer (inner.leave (.ofInvocation? shown) world) =
            some (progress, after, rest) ∧
          transcript = .block shown inside rest := by
  simp only [poll] at ran
  split at ran
  · cases ran
  · rename_i later inner inside worked
    cases ran
    exact .inl ⟨later, inner, inside, worked, rfl, rfl, rfl⟩
  · rename_i ending inner inside worked
    obtain ⟨rest, continued, rfl⟩ := Polled.ends_of_within ran
    exact .inr ⟨ending, inner, inside, rest, worked, continued, rfl⟩

theorem poll_call_cases {answer : Call → Recorded σ Json} {request : Call} {next : Ending Json → Task}
    {world after : World σ} {progress : Progress} {transcript : Transcript}
    (ran : (Task.call request next).poll answer world = some (progress, after, transcript)) :
    ∃ ending middle journal rest,
      answer request world = some (ending, middle, journal) ∧
        (next ending).poll answer middle = some (progress, after, rest) ∧
        transcript = .call request journal rest := by
  simp only [poll] at ran
  split at ran
  · cases ran
  · rename_i ending middle journal called
    obtain ⟨rest, continued, rfl⟩ := Polled.ends_of_within ran
    exact ⟨ending, middle, journal, rest, called, continued, rfl⟩

end Task

/-- One turn of a thread with tasks. -/
structure Task.Turn (ι σ : Type) where
  /-- The task that is polled. -/
  index : ι
  /-- The world before the poll. -/
  before : World σ
  /-- How the poll leaves the task. -/
  progress : Progress
  /-- The world after the poll. -/
  after : World σ
  /-- What happens in the poll. -/
  transcript : Transcript

section Interleaving

variable [DecidableEq ι]

/-- The tasks after one of them has made progress. -/
def Task.advance (tasks : ι → Task) (index : ι) (progress : Progress) : ι → Task := fun other =>
  if other = index then progress.task else tasks other

/-- Poll the tasks of a thread in the order of a schedule. -/
def Task.interleave (answer : Call → Recorded σ Json) (tasks : ι → Task) :
    List ι → World σ → Option (List (Task.Turn ι σ))
  | [], _ => some []
  | index :: schedule, world =>
      match (tasks index).poll answer world with
      | none => none
      | some (progress, after, transcript) =>
          (interleave answer (advance tasks index progress) schedule after).map
            (⟨index, world, progress, after, transcript⟩ :: ·)

theorem Task.interleave_nil (answer : Call → Recorded σ Json) (tasks : ι → Task) (world : World σ) :
    interleave answer tasks [] world = some [] := by
  rw [interleave]

theorem Task.interleave_cons_cases {answer : Call → Recorded σ Json} {tasks : ι → Task} {index : ι}
    {schedule : List ι} {world : World σ} {history : List (Task.Turn ι σ)}
    (ran : interleave answer tasks (index :: schedule) world = some history) :
    ∃ progress after transcript later,
      (tasks index).poll answer world = some (progress, after, transcript) ∧
        interleave answer (advance tasks index progress) schedule after = some later ∧
        history = ⟨index, world, progress, after, transcript⟩ :: later := by
  simp only [interleave] at ran
  split at ran
  · cases ran
  · rename_i progress after transcript polled
    obtain ⟨later, continued, rfl⟩ := Option.map_eq_some_iff.mp ran
    exact ⟨progress, after, transcript, later, polled, continued, rfl⟩

/-- The turns of one task in a history. -/
def Task.Turn.of (index : ι) (history : List (Task.Turn ι σ)) : List (Task.Turn ι σ) :=
  history.filter (·.index = index)

theorem Task.Turn.of_cons_self (turn : Task.Turn ι σ) (history : List (Task.Turn ι σ)) :
    of turn.index (turn :: history) = turn :: of turn.index history :=
  List.filter_cons_of_pos (by simp)

theorem Task.Turn.of_cons_of_ne (turn : Task.Turn ι σ) (history : List (Task.Turn ι σ)) {index : ι}
    (different : turn.index ≠ index) : of index (turn :: history) = of index history :=
  List.filter_cons_of_neg (by simpa using different)

end Interleaving

/-! ## Larger bounds on the depth of calls -/

section Depth

variable {answer deeper : Call → Recorded σ Json}
  (extended : ∀ request, (answer request).ExtendedBy (deeper request))

include extended

theorem Task.poll_of_extendedBy (task : Task) {world after : World σ} {progress : Progress}
    {transcript : Transcript} (ran : task.poll answer world = some (progress, after, transcript)) :
    task.poll deeper world = some (progress, after, transcript) := by
  induction task generalizing world progress after transcript with
  | finish ending => exact ran
  | suspend next ih => exact ran
  | current next ih =>
      obtain ⟨rest, continued, rfl⟩ := Polled.ends_of_within ran
      simp only [poll, Polled.within, ih _ continued, Option.map_some]
  | prepare interface method next ih => exact ih _ ran
  | call request next ih =>
      obtain ⟨ending, middle, journal, rest, called, continued, rfl⟩ := poll_call_cases ran
      simp only [poll, extended request called, Polled.within, ih ending continued, Option.map_some]
  | block shown body next within behind =>
      rcases poll_block_cases ran with ⟨later, inner, inside, worked, rfl, rfl, rfl⟩ |
        ⟨ending, inner, inside, rest, worked, continued, rfl⟩
      · simp only [poll, within worked]
      · simp only [poll, within worked, Polled.within, behind ending continued, Option.map_some]

theorem Task.interleave_of_extendedBy [DecidableEq ι] {tasks : ι → Task} {schedule : List ι}
    {world : World σ} {history : List (Task.Turn ι σ)}
    (ran : interleave answer tasks schedule world = some history) :
    interleave deeper tasks schedule world = some history := by
  induction schedule generalizing tasks world history with
  | nil =>
      rw [interleave_nil] at ran ⊢
      exact ran
  | cons index schedule ih =>
      obtain ⟨progress, after, transcript, later, polled, continued, rfl⟩ := interleave_cons_cases ran
      simp only [interleave, poll_of_extendedBy extended _ polled, ih continued, Option.map_some]

end Depth

end FragmentAssembly
