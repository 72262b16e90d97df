import FragmentAssembly.Proofs.Journal.Echoes
import FragmentAssembly.Proofs.Tasks.Innermost

/-!
# Tasks do not see each other

Whatever the schedule is, a task finds the slot of the thread unset and its own scopes as it has left
them, and reads what its innermost scope or call shows. The other tasks leave behind numbers that were
taken, a state of the application, and instances. A task that does not look at the numbers, with an
application that does not look at the numbers or the state and whose factories end in one way whatever
invocation is in progress, does what it does on a thread of its own. If a factory looks at the invocation
in progress, the task that comes first decides for all others whether there is an instance.
-/

namespace FragmentAssembly

variable {σ ι : Type}

namespace Task

/-- Two tasks that differ in numbers of invocations only, now and after the same answers. -/
inductive Alike : Task → Task → Prop where
  /-- Both end in the same way. -/
  | finish (ending : Ending Json) : Alike (.finish ending) (.finish ending)
  /-- Both wait. -/
  | suspend {next other : Task} (behind : Alike next other) : Alike (.suspend next) (.suspend other)
  /-- Both ask for the invocation in progress. -/
  | current {next other : Option Invocation → Task}
      (behind : ∀ shown given, Invocation.Match shown given → Alike (next shown) (other given)) :
      Alike (.current next) (.current other)
  /-- Both make an invocation of the same method. -/
  | prepare (interface : Interface) (method : Signature) {next other : Invocation → Task}
      (behind : ∀ left right, left.unnumbered = right.unnumbered → Alike (next left) (other right)) :
      Alike (.prepare interface method next) (.prepare interface method other)
  /-- Both make the same call. -/
  | call (request : Call) {next other : Ending Json → Task}
      (behind : ∀ ending, Alike (next ending) (other ending)) :
      Alike (.call request next) (.call request other)
  /-- Both enter a scope that shows the same. -/
  | block {shown given : Option Invocation} {body work : Task} {next other : Ending Json → Task}
      (same : Invocation.Match shown given) (within : Alike body work)
      (behind : ∀ ending, Alike (next ending) (other ending)) :
      Alike (.block shown body next) (.block given work other)

/-- What a task does does not depend on numbers of invocations. -/
def Blind (task : Task) : Prop :=
  task.Alike task

end Task

/-- Two polls end in the same way, or leave tasks that differ in numbers of invocations only. -/
inductive Progress.Alike : Progress → Progress → Prop where
  /-- Both tasks have ended. -/
  | finished (ending : Ending Json) : Alike (.finished ending) (.finished ending)
  /-- Both tasks are suspended. -/
  | waiting {task other : Task} (same : task.Alike other) : Alike (.waiting task) (.waiting other)

/-- How a task has ended, if it has. -/
def Progress.ending? : Progress → Option (Ending Json)
  | .finished ending => some ending
  | .waiting _ => none

theorem Progress.Alike.task {progress other : Progress} (same : progress.Alike other) :
    progress.task.Alike other.task := by
  cases same with
  | finished ending => exact .finish ending
  | waiting same => exact same

theorem Progress.Alike.ending? {progress other : Progress} (same : progress.Alike other) :
    progress.ending? = other.ending? := by
  cases same with
  | finished ending => rfl
  | waiting same => rfl

/-- A transcript without the numbers of invocations and without what factories do. -/
def Transcript.essence : Transcript → Transcript
  | .done => .done
  | .read answer rest => .read (answer.map Invocation.unnumbered) rest.essence
  | .call request journal rest => .call request journal.essence rest.essence
  | .block shown inside rest =>
      .block (shown.map Invocation.unnumbered) inside.essence rest.essence

/-- What can be seen of a turn: how the task ended in it, if it did, and what happened, without the
numbers of invocations and without what factories do. -/
def Task.Turn.seen (turn : Task.Turn ι σ) : Option (Ending Json) × Transcript :=
  (turn.progress.ending?, turn.transcript.essence)

/-- Peers in which the scopes of the task decide, because the slot of the thread is unset. -/
structure World.Companions (made : Nat → Ending (Implementation σ)) (left right : World σ) : Prop extends
    World.Peers made left right where
  unset : left.surroundings.thread = .unset ∧ right.surroundings.thread = .unset

namespace World.Companions

variable {made : Nat → Ending (Implementation σ)} {left right : World σ}

theorem restored {after reached : World σ} (companions : left.Companions made right)
    (steady : after.Steady made) (calm : reached.Steady made)
    (kept : after.surroundings = left.surroundings)
    (retained : reached.surroundings = right.surroundings) : after.Companions made reached := by
  refine ⟨companions.toPeers.restored steady calm kept retained, ?_⟩
  rw [kept, retained]
  exact companions.unset

theorem enter {shown given : Option Invocation} (companions : left.Companions made right)
    (same : Invocation.Match shown given) :
    (left.enter (.ofInvocation? shown)).Companions made (right.enter (.ofInvocation? given)) := by
  obtain ⟨⟨steady, calm, -⟩, unset⟩ := companions
  refine ⟨⟨steady, calm, ?_⟩, ?_⟩
  · rw [World.enter, World.enter, Block.current?_enter_ofInvocation? unset.1,
      Block.current?_enter_ofInvocation? unset.2]
    exact same
  · rw [World.enter, World.enter, Block.enter_ofInvocation?, Block.enter_ofInvocation?]
    exact unset

theorem leave {shown given : Option Invocation} {inner core : World σ}
    (companions : left.Companions made right) (amid : inner.Companions made core)
    (kept : inner.surroundings = (left.enter (.ofInvocation? shown)).surroundings)
    (retained : core.surroundings = (right.enter (.ofInvocation? given)).surroundings) :
    (inner.leave (.ofInvocation? shown) left).Companions made
      (core.leave (.ofInvocation? given) right) :=
  companions.restored amid.steady amid.calm (World.surroundings_leave kept)
    (World.surroundings_leave retained)

end World.Companions

namespace Task

section Polls

variable {directory : Directory σ} {made : Nat → Ending (Implementation σ)}
  (steady : directory.Steady made)

include steady

theorem steadies_poll (task : Task) {depth : Nat} {before after : World σ} {progress : Progress}
    {transcript : Transcript} (calm : before.Steady made)
    (ran : task.poll (directory.record depth) before = some (progress, after, transcript)) :
    after.Steady made := by
  induction task generalizing before progress after transcript with
  | finish ending =>
      cases ran
      exact calm
  | suspend next ih =>
      cases ran
      exact calm
  | current next ih =>
      obtain ⟨rest, continued, -⟩ := Polled.ends_of_within ran
      exact ih _ calm continued
  | prepare interface method next ih =>
      have prepared : (before.prepare interface method).2.Steady made := calm
      exact ih _ prepared ran
  | call request next ih =>
      obtain ⟨ending, middle, journal, rest, called, continued, -⟩ := poll_call_cases ran
      exact ih ending (Directory.steadies_record steady depth request calm called) continued
  | block shown body next within behind =>
      have entered : (before.enter (.ofInvocation? shown)).Steady made := calm
      rcases poll_block_cases ran with ⟨later, inner, inside, worked, -, rfl, -⟩ |
        ⟨ending, inner, inside, rest, worked, continued, -⟩
      · have still := within entered worked
        exact still
      · have still := within entered worked
        have left : (inner.leave (.ofInvocation? shown) before).Steady made := still
        exact behind ending left continued

theorem companions_poll {left right : Task} {depth larger : Nat}
    {before world after reached : World σ} {progress gone : Progress} {transcript record : Transcript}
    (companions : before.Companions made world)
    (ran : left.poll (directory.record depth) before = some (progress, after, transcript))
    (went : right.poll (directory.record larger) world = some (gone, reached, record)) :
    after.Companions made reached :=
  companions.restored (steadies_poll steady left companions.steady ran)
    (steadies_poll steady right companions.calm went)
    (surroundings_poll (directory.restores_record depth) left ran)
    (surroundings_poll (directory.restores_record larger) right went)

/-- A task does in a world what a task that is like it does in a companion of that world. -/
theorem echoed_poll {left right : Task} (alike : left.Alike right) {depth : Nat}
    {before world after : World σ} {progress : Progress} {transcript : Transcript}
    (companions : before.Companions made world)
    (ran : left.poll (directory.record depth) before = some (progress, after, transcript)) :
    ∃ bound gone reached record,
      (∀ larger, bound ≤ larger →
          right.poll (directory.record larger) world = some (gone, reached, record)) ∧
        progress.Alike gone ∧ transcript.essence = record.essence := by
  -- On the relation, not on the task: a scope that is suspended goes on with work that is only alike.
  induction alike generalizing before world after progress transcript with
  | finish ending =>
      cases ran
      exact ⟨0, .finished ending, world, .done, fun _ _ => rfl, .finished ending, rfl⟩
  | @suspend next other behind ih =>
      cases ran
      exact ⟨0, .waiting other, world, .done, fun _ _ => rfl, .waiting behind, rfl⟩
  | current behind ih =>
      obtain ⟨rest, continued, rfl⟩ := Polled.ends_of_within ran
      obtain ⟨bound, gone, reached, record, ends, leaves, agree⟩ :=
        ih _ _ companions.same companions continued
      refine ⟨bound, gone, reached, .read world.surroundings.current record, ?_, leaves, ?_⟩
      · intro larger le
        simp only [poll, Polled.within, ends larger le, Option.map_some]
      · rw [Transcript.essence, Transcript.essence, agree, Surroundings.current, Surroundings.current,
          companions.same.reply]
  | prepare interface method behind ih =>
      have prepared : (before.prepare interface method).2.Companions made
          (world.prepare interface method).2 :=
        companions.restored companions.steady companions.calm rfl rfl
      have outcome := ih (before.prepare interface method).1 (world.prepare interface method).1 rfl
        prepared ran
      exact outcome
  | call request behind ih =>
      obtain ⟨ending, middle, journal, rest, called, continued, rfl⟩ := poll_call_cases ran
      obtain ⟨-, bound, between, entry, answers, amid, agree⟩ :=
        Directory.echoedBy_record steady depth request companions.toPeers called
      have restored : middle.Companions made between :=
        companions.restored amid.steady amid.calm
          (directory.restores_record depth request (Recorded.forget_eq_some called))
          (directory.restores_record bound request
            (Recorded.forget_eq_some (answers bound (Nat.le_refl bound))))
      obtain ⟨other, gone, reached, record, ends, leaves, follow⟩ := ih ending restored continued
      refine ⟨max bound other, gone, reached, .call request entry record, ?_, leaves, ?_⟩
      · intro larger le
        simp only [poll, answers larger (by omega), Polled.within, ends larger (by omega),
          Option.map_some]
      · rw [Transcript.essence, Transcript.essence, agree, follow]
  | @block shown given body work next other shows within behind works ih =>
      have entered := companions.enter shows
      have opens : shown.map Invocation.unnumbered = given.map Invocation.unnumbered := shows
      rcases poll_block_cases ran with ⟨later, inner, inside, worked, rfl, rfl, rfl⟩ |
        ⟨ending, inner, inside, rest, worked, continued, rfl⟩
      · obtain ⟨bound, gone, core, content, ends, leaves, agree⟩ := works entered worked
        cases leaves with
        | @waiting _ still same =>
            refine ⟨bound, .waiting (.block given still other), core.leave (.ofInvocation? given) world,
              .block given content .done, ?_, .waiting (.block shows same behind), ?_⟩
            · intro larger le
              simp only [poll, ends larger le]
            · simp only [Transcript.essence, agree, opens]
      · obtain ⟨bound, gone, core, content, ends, leaves, agree⟩ := works entered worked
        cases leaves with
        | finished ending =>
            have labored := ends bound (Nat.le_refl bound)
            have behind := companions.leave (companions_poll steady entered worked labored)
              (surroundings_poll (directory.restores_record depth) body worked)
              (surroundings_poll (directory.restores_record bound) work labored)
            obtain ⟨further, gone, reached, record, finishes, leaves, follow⟩ :=
              ih ending behind continued
            refine ⟨max bound further, gone, reached, .block given content record, ?_, leaves, ?_⟩
            · intro larger le
              simp only [poll, ends larger (by omega), Polled.within, finishes larger (by omega),
                Option.map_some]
            · simp only [Transcript.essence, agree, follow, opens]

variable [DecidableEq ι]

/-- The turns of one task are the turns that it has on a thread of its own. -/
theorem echoed_interleave (index : ι) {tasks others : ι → Task}
    (alike : (tasks index).Alike (others index)) {schedule : List ι} {depth : Nat}
    {world start : World σ} {history : List (Turn ι σ)} (companions : world.Companions made start)
    (ran : interleave (directory.record depth) tasks schedule world = some history) :
    ∃ bound solitary,
      (∀ larger, bound ≤ larger →
          interleave (directory.record larger) others (schedule.filter (· = index)) start =
            some solitary) ∧
        (Turn.of index history).map Turn.seen = solitary.map Turn.seen := by
  induction schedule generalizing tasks others world start history with
  | nil =>
      rw [interleave_nil] at ran
      cases ran
      exact ⟨0, [], fun _ _ => interleave_nil _ _ _, rfl⟩
  | cons polled schedule ih =>
      obtain ⟨progress, after, transcript, later, first, continued, rfl⟩ := interleave_cons_cases ran
      by_cases same : polled = index
      · subst same
        obtain ⟨bound, gone, reached, record, ends, leaves, agree⟩ :=
          echoed_poll steady alike companions first
        have amid := companions_poll steady companions first (ends bound (Nat.le_refl bound))
        have remains : (advance tasks polled progress polled).Alike
            (advance others polled gone polled) := by
          rw [advance_self, advance_self]
          exact leaves.task
        obtain ⟨further, solitary, finishes, follow⟩ := ih remains amid continued
        refine ⟨max bound further, ⟨polled, start, gone, reached, record⟩ :: solitary, ?_, ?_⟩
        · intro larger le
          rw [List.filter_cons_of_pos (by simp)]
          simp only [interleave, ends larger (by omega), finishes larger (by omega), Option.map_some]
        · have own := Turn.of_cons_self ⟨polled, world, progress, after, transcript⟩ later
          rw [own, List.map_cons, List.map_cons, follow, Turn.seen, Turn.seen, leaves.ending?, agree]
      · have kept : after.Companions made start :=
          companions.restored (steadies_poll steady (tasks polled) companions.steady first)
            companions.calm (surroundings_poll (directory.restores_record depth) _ first) rfl
        have remains : (advance tasks polled progress index).Alike (others index) := by
          rw [advance_of_ne (Ne.symm same)]
          exact alike
        have foreign := Turn.of_cons_of_ne ⟨polled, world, progress, after, transcript⟩ later same
        rw [foreign, List.filter_cons_of_neg (by simpa using same)]
        exact ih remains kept continued

end Polls

variable [DecidableEq ι]

/-- What holds of the turns of tasks on one thread, in whatever order they are polled. -/
structure KeptApart (directory : Directory σ) (depth : Nat) (tasks : ι → Task) (schedule : List ι)
    (world : World σ) (history : List (Turn ι σ)) : Prop where
  /-- Whenever a task is suspended or ends, the surroundings are those from the start, and so the slot of
  the thread is unset. -/
  restored : ∀ turn ∈ history,
    turn.after.surroundings = world.surroundings ∧ turn.after.surroundings.thread = .unset
  /-- A task does what it would do alone if it found the same instances, numbers and state at each poll,
  and the surroundings that it has left itself. -/
  alone : ∀ index,
    (tasks index).alone (directory.record depth) world.surroundings
        ((Turn.of index history).map Turn.before) =
      some ((Turn.of index history).map fun turn => (turn.progress, turn.transcript))
  /-- If no implementation and no factory takes guards, every read of a task, also one by an
  implementation or a factory that works for it, is answered by the innermost scope or call around it in
  that task. -/
  innermost : directory.Unguarded → world.Unguarded →
    ∀ turn ∈ history, turn.transcript.FollowsInnermost directory world.surroundings.current?
  /-- If implementations only read and call, if every factory ends in one way whatever invocation is in
  progress and whichever instances exist, and if nobody looks at numbers, a task has the same turns on a
  thread of its own that starts in the same world. There it ends each of them in the same way, with the
  same reads and calls. -/
  solitary : ∀ made, directory.Steady made → world.Steady made →
    ∀ index, (tasks index).Blind →
      ∃ bound solitary,
        (∀ larger, bound ≤ larger →
            interleave (directory.record larger) tasks (schedule.filter (· = index)) world =
              some solitary) ∧
          (Turn.of index history).map Turn.seen = solitary.map Turn.seen

/-- Tasks that take turns on a thread whose slot is unset never see each other's scopes, whatever they do
in them, wherever they are suspended and in whatever order they are polled. A task reads what it reads
alone if no factory ends differently because of the invocation in progress. -/
theorem turns_keep_apart (directory : Directory σ) (depth : Nat) (tasks : ι → Task)
    (schedule : List ι) {world : World σ} {history : List (Turn ι σ)}
    (unset : world.surroundings.thread = .unset)
    (ran : interleave (directory.record depth) tasks schedule world = some history) :
    KeptApart directory depth tasks schedule world history := by
  have restores := directory.restores_record depth
  refine ⟨?_, alone_of_interleave restores ran, ?_, ?_⟩
  · intro turn member
    have restored := (surroundings_interleave restores ran turn member).2
    rw [restored]
    exact ⟨rfl, unset⟩
  · intro plain unguarded
    exact follows_interleave restores (directory.follows_record plain depth) unset unguarded ran
  · intro made steady calm index blind
    have companions : world.Companions made world := ⟨⟨calm, calm, rfl⟩, ⟨unset, unset⟩⟩
    exact echoed_interleave steady index blind companions ran

/-- One task that works in a scope of its own and is suspended there before and after it calls a
repository, and one that hides every invocation while it does so. -/
def pair (method : Signature) : Bool → Task
  | true =>
      .prepare (.named "own" "" "") method fun own =>
        .block (some own)
          (.suspend (.current fun _ => .call ⟨"front", .direct, method, []⟩ fun ending =>
            .suspend (.finish ending)))
          fun _ => .current fun _ => .finish (.value .null)
  | false =>
      .block none
        (.call ⟨"front", .scoped, method, []⟩ fun _ => .suspend (.current fun _ =>
          .finish (.value .null)))
        .finish

theorem blind_pair (method : Signature) (index : Bool) : (pair method index).Blind := by
  cases index with
  | true =>
      refine .prepare _ _ fun left right same => .block (congrArg some same) ?_ ?_
      · exact .suspend (.current fun _ _ _ => .call _ fun ending => .suspend (.finish ending))
      · exact fun _ => .current fun _ _ _ => .finish _
  | false =>
      refine .block rfl ?_ .finish
      exact .call _ fun _ => .suspend (.current fun _ _ _ => .finish _)

end Task

/-- The instances that the factories of the relay make. -/
def Directory.relayed (method : Signature) (cell : Nat) : Ending (Implementation Unit) :=
  .value
    { typeName := "AskingImpl"
      supports := fun _ => true
      satisfies := fun _ => true
      invoke := fun _ _ => .current fun _ =>
        if cell = 0 then
          .call ⟨"back", .scoped, method, []⟩ fun _ => .current fun _ =>
            .call ⟨"back", .direct, method, []⟩ fun _ => .current fun _ => .finish (.value .null)
        else
          .abort "" }

theorem Directory.steady_relay (method : Signature) :
    (relay method).Steady (relayed method) := by
  intro name fragment member binding bound
  rw [relay] at member
  split at member
  · obtain rfl : fragment = _ := List.mem_singleton.mp member
    cases bound
    refine ⟨⟨relayed method 0, ?_, rfl⟩, ?_⟩
    · intro before steady
      exact ⟨0, before, _, fun _ _ => rfl⟩
    · rintro implementation ⟨⟩ asked arguments
      refine ⟨fun _ => ?_, fun _ _ _ => rfl⟩
      exact fun _ => ⟨fun _ _ => ⟨fun _ => trivial, fun _ _ _ => rfl⟩, fun _ _ _ => rfl⟩
  · obtain rfl : fragment = _ := List.mem_singleton.mp member
    cases bound
    refine ⟨⟨relayed method 1, ?_, rfl⟩, ?_⟩
    · intro before steady
      exact ⟨0, before, _, fun _ _ => rfl⟩
    · rintro implementation ⟨⟩ asked arguments
      exact ⟨fun _ => trivial, fun _ _ _ => rfl⟩

theorem Task.turns_keep_apart_pair :
    let method : Signature := ⟨"ask", []⟩
    let directory := Directory.relay method
    let schedule := [true, false, true, false, true]
    let world := World.initial ()
    world.surroundings.thread = .unset ∧ directory.Unguarded ∧ world.Unguarded ∧
      directory.Steady (Directory.relayed method) ∧ world.Steady (Directory.relayed method) ∧
      (∀ index, (pair method index).Blind) ∧
      ∃ history, interleave (directory.record 2) (pair method) schedule world = some history ∧
        history.map (fun turn => (turn.index, turn.progress.ending?.isSome)) =
          [(true, false), (false, false), (true, false), (false, true), (true, true)] ∧
        KeptApart directory 2 (pair method) schedule world history := by
  intro method directory schedule world
  have turns : (interleave (directory.record 2) (pair method) schedule world).map (fun history =>
      history.map fun turn => (turn.index, turn.progress.ending?.isSome)) =
        some [(true, false), (false, false), (true, false), (false, true), (true, true)] := by
    decide +kernel
  obtain ⟨history, ran, shape⟩ := Option.map_eq_some_iff.mp turns
  exact ⟨rfl, Directory.unguarded_relay method, nofun, Directory.steady_relay method, nofun,
    blind_pair method, history, ran, shape, turns_keep_apart directory 2 _ schedule rfl ran⟩

/-! ## Factories that look at the invocation in progress -/

/-- Neither the factory nor the instances that it makes do anything but read and call. -/
def Binding.Blind : Binding σ → Prop
  | .eager implementation => implementation.Blind
  | .deferred source => source.factory.Blind ∧ source.factory.Unguarded Implementation.Blind

/-- The implementations and the factories of all repositories only read and call. -/
def Directory.Blind (directory : Directory σ) : Prop :=
  ∀ name, ∀ fragment ∈ (directory name).composition.slots, ∀ binding,
    fragment.binding = some binding → binding.Blind

/-- The names of the interfaces whose invocations a task reads itself, in the order of its reads. Where
no invocation is in progress there is no name. -/
def Transcript.reads : Transcript → List (Option String)
  | .done => []
  | .read answer rest => answer.toOption.map (·.interface.name) :: rest.reads
  | .call _ _ rest => rest.reads
  | .block _ inside rest => inside.reads ++ rest.reads

theorem Transcript.reads_essence (transcript : Transcript) :
    transcript.essence.reads = transcript.reads := by
  induction transcript with
  | done => rfl
  | read answer rest ih =>
      rw [essence, reads, reads, ih]
      cases answer with
      | error error => rfl
      | ok invocation => rfl
  | call request journal rest ih => rw [essence, reads, reads, ih]
  | block shown inside rest within ih => rw [essence, reads, reads, within, ih]

/-- A fragment that answers one method. Its factory fails unless an invocation is in progress. -/
def Fragment.wary (method : Signature) : Fragment σ :=
  .deferred ((Contract.named "Asking").withMethods [method])
    { typeName := "AskingImpl"
      factory := .current fun
        | some _ => .finish (.value
            { typeName := "AskingImpl"
              supports := fun _ => true
              satisfies := fun _ => true
              invoke := fun _ _ => .finish (.value .null) })
        | none => .fail .noInvocation
      cell := 0 }

/-- Two repositories that share the fragment. One of them shows its calls. -/
def Directory.sharing (method : Signature) : Directory Unit := fun name =>
  .ofComposition (.named name "" "") (.ofList [.wary method]) (name = "open")

theorem Directory.blind_sharing (method : Signature) : (sharing method).Blind := by
  intro name fragment member binding bound
  obtain rfl : fragment = _ := List.mem_singleton.mp member
  cases bound
  refine ⟨⟨?_, ?_⟩, ?_⟩
  · rintro (_ | shown)
    · trivial
    · trivial
  · rintro (_ | left) (_ | right) same
    · rfl
    · cases same
    · cases same
    · rfl
  · rintro (_ | shown)
    · trivial
    · exact fun _ _ => trivial

namespace Task

/-- One task calls the repository that shows its calls. The other one calls the repository that hides
them and, if that has succeeded, reads in a scope of its own. -/
def rivals (method : Signature) : Bool → Task
  | false => .call ⟨"open", .direct, method, []⟩ .finish
  | true =>
      .prepare (.named "own" "" "") method fun own =>
        .call ⟨"closed", .direct, method, []⟩ fun
          | .value _ => .block (some own) (.current fun _ => .finish (.value .null)) .finish
          | _ => .current fun _ => .finish (.value .null)

theorem blind_rivals (method : Signature) (index : Bool) : (rivals method index).Blind := by
  cases index with
  | false => exact .call _ .finish
  | true =>
      refine .prepare _ _ fun left right same => .call _ ?_
      rintro (_ | _ | _)
      · exact .block (congrArg some same) (.current fun _ _ _ => .finish _) .finish
      · exact .current fun _ _ _ => .finish _
      · exact .current fun _ _ _ => .finish _

/-- The factory has to be steady for a task to have the same turns alone. Here the first caller is in a
repository that shows its calls, so that there is an instance when the second one comes. Alone the second
one fails, and reads elsewhere. -/
theorem first_caller_decides :
    let method : Signature := ⟨"ask", []⟩
    let directory := Directory.sharing method
    let world := World.initial ()
    world.surroundings.thread = .unset ∧ directory.Blind ∧ (∀ index, (rivals method index).Blind) ∧
      ∃ history solitary,
        (∀ larger, 2 ≤ larger →
          interleave (directory.record larger) (rivals method) [false, true] world = some history ∧
            interleave (directory.record larger) (rivals method) [true] world = some solitary) ∧
        (Turn.of true history).map (·.transcript.reads) = [[some "own"]] ∧
        solitary.map (·.transcript.reads) = [[none]] ∧
        (Turn.of true history).map Turn.seen ≠ solitary.map Turn.seen := by
  intro method directory world
  have together : (interleave (directory.record 2) (rivals method) [false, true] world).map
      (fun history => (Turn.of true history).map (·.transcript.reads)) = some [[some "own"]] := by
    decide +kernel
  have apart : (interleave (directory.record 2) (rivals method) [true] world).map
      (fun solitary => solitary.map (·.transcript.reads)) = some [[none]] := by
    decide +kernel
  obtain ⟨history, ran, own⟩ := Option.map_eq_some_iff.mp together
  obtain ⟨solitary, went, nothing⟩ := Option.map_eq_some_iff.mp apart
  refine ⟨rfl, Directory.blind_sharing method, blind_rivals method, history, solitary, ?_, own, nothing,
    ?_⟩
  · intro larger le
    have extended := directory.extendedBy_record_of_le le
    exact ⟨interleave_of_extendedBy extended ran, interleave_of_extendedBy extended went⟩
  · intro same
    have agree := congrArg (List.map fun seen => seen.2.reads) same
    simp only [List.map_map, Function.comp_def, Turn.seen, Transcript.reads_essence] at agree
    rw [own, nothing] at agree
    cases agree

end Task

end FragmentAssembly
