import FragmentAssembly.Proofs.Repository.Perform

/-!
# Nested blocks

A program may nest blocks in any order: guards that show an invocation, hide every invocation or leave the
decision to the task, and scopes of the task that show an invocation or hide every one. The blocks around a
point of the program are recorded nowhere. There are a slot of the thread and a scope of the task, and each
block keeps the value that it replaces until it is left. Still the invocation in progress is the one that
the list of the enclosing blocks gives, as if the blocks were a stack.
-/

namespace FragmentAssembly

variable {σ α : Type}

/-- A block of a program with a say in which invocation is in progress. -/
inductive Layer where
  /-- A guard shows an invocation. -/
  | enter (invocation : Invocation)
  /-- A guard hides every invocation. -/
  | suppress
  /-- A guard leaves the decision to the task. -/
  | defer
  /-- A scope of the task shows an invocation. -/
  | scope (invocation : Invocation)
  /-- A scope of the task hides every invocation. -/
  | absence

namespace Layer

/-! ## Reading the enclosing blocks -/

/-- Whether a guard makes the block. -/
def isGuard : Layer → Bool
  | .enter _ => true
  | .suppress => true
  | .defer => true
  | .scope _ => false
  | .absence => false

/-- The answer that enclosing blocks give, the innermost one first. The innermost guard decides. If it leaves
the decision to the task, or if there is none, the innermost scope of the task decides. -/
def answer (layers : List Layer) : Except Error Invocation :=
  match layers.find? isGuard, layers.find? (!isGuard ·) with
  | some (.enter invocation), _ => .ok invocation
  | some .suppress, _ => .error .noInvocation
  | _, some (.scope invocation) => .ok invocation
  | _, _ => .error .noInvocation

/-! ## Running blocks -/

/-- Run in a block. The block is left however the run ends. -/
def run (layer : Layer) (body : Run σ α) : Run σ α :=
  match layer with
  | .enter invocation => Run.withThread (.active invocation) body
  | .suppress => Run.withThread .hidden body
  | .defer => Run.withThread .unset body
  | .scope invocation => Run.withTask (.active invocation) body
  | .absence => Run.withTask .hidden body

/-- The surroundings inside of a block, from those around it. -/
def interior (layer : Layer) (outer : Surroundings) : Surroundings :=
  match layer with
  | .enter invocation => { outer with thread := .active invocation }
  | .suppress => { outer with thread := .hidden }
  | .defer => { outer with thread := .unset }
  | .scope invocation => { outer with task := .active invocation }
  | .absence => { outer with task := .hidden }

/-- The surroundings behind a block, from those around it and those at its end. -/
def exterior (layer : Layer) (outer inner : Surroundings) : Surroundings :=
  if layer.isGuard then { inner with thread := outer.thread } else { inner with task := outer.task }

@[simp]
theorem exterior_interior (layer : Layer) (outer : Surroundings) :
    layer.exterior outer (layer.interior outer) = outer := by
  cases layer <;> rfl

theorem run_eq (layer : Layer) (body : Run σ α) (world : World σ) :
    layer.run body world =
      (body { world with surroundings := layer.interior world.surroundings }).map
        fun (ending, after) =>
          (ending,
            { after with
              surroundings := layer.exterior world.surroundings after.surroundings }) := by
  cases layer with
  | enter invocation => exact Run.withThread_eq _ body world
  | suppress => exact Run.withThread_eq _ body world
  | defer => exact Run.withThread_eq _ body world
  | scope invocation => exact Run.withTask_eq _ body world
  | absence => exact Run.withTask_eq _ body world

/-- A block whose work restores its surroundings leaves all surroundings as they were. -/
theorem run_of_kept {layer : Layer} {body : Run σ α} {world last : World σ} {ending : Ending α}
    (worked : body { world with surroundings := layer.interior world.surroundings } =
      some (ending, last))
    (kept : last.surroundings = layer.interior world.surroundings) :
    layer.run body world = some (ending, { last with surroundings := world.surroundings }) := by
  rw [run_eq, worked]
  simp only [Option.map_some, kept, exterior_interior]

end Layer

/-! ## The surroundings of a point in the program -/

namespace Surroundings

/-- The surroundings inside of blocks, the innermost one first, on a thread that was new outside of them. -/
def inside (layers : List Layer) : Surroundings :=
  layers.foldr Layer.interior .initial

theorem thread_inside (layers : List Layer) :
    (inside layers).thread =
      match layers.find? Layer.isGuard with
      | some (.enter invocation) => .active invocation
      | some .suppress => .hidden
      | _ => .unset := by
  induction layers with
  | nil => rfl
  | cons layer others ih =>
      cases layer with
      | enter invocation => rfl
      | suppress => rfl
      | defer => rfl
      | scope invocation => exact ih
      | absence => exact ih

theorem task_inside (layers : List Layer) :
    (inside layers).task =
      match layers.find? (!Layer.isGuard ·) with
      | some (.scope invocation) => .active invocation
      | some .absence => .hidden
      | _ => .outside := by
  induction layers with
  | nil => rfl
  | cons layer others ih =>
      cases layer with
      | enter invocation => exact ih
      | suppress => exact ih
      | defer => exact ih
      | scope invocation => rfl
      | absence => rfl

/-- The stores together know what the list of blocks knows. -/
theorem current_inside (layers : List Layer) : (inside layers).current = Layer.answer layers := by
  rw [current, current?, thread_inside, task_inside, Layer.answer]
  rcases layers.find? Layer.isGuard with _ | (_ | _ | _ | _ | _) <;>
    rcases layers.find? (!Layer.isGuard ·) with _ | (_ | _ | _ | _ | _) <;> rfl

end Surroundings

/-! ## Programs of nested blocks -/

/-- What a program of nested blocks writes down. -/
inductive Observation where
  /-- The invocation in progress was asked for inside of blocks, the innermost one first. -/
  | asked (layers : List Layer) (answer : Except Error Invocation)
  /-- A block was left, with these surroundings before and behind it. -/
  | left (layer : Layer) (ending : Ending Json) (before after : Surroundings)

/-- The answer is the one of the enclosing blocks, and leaving a block puts both stores back. -/
def Observation.Faithful : Observation → Prop
  | .asked layers answer => answer = Layer.answer layers
  | .left _ _ before after => after = before

/-- The world after an observation is written down. The state of the application are its observations. -/
def World.observe (world : World (List Observation)) (observation : Observation) :
    World (List Observation) :=
  { world with state := world.state ++ [observation] }

theorem World.forall_mem_observe {world : World (List Observation)} {observation : Observation}
    (before : ∀ earlier ∈ world.state, earlier.Faithful) (faithful : observation.Faithful) :
    ∀ earlier ∈ (world.observe observation).state, earlier.Faithful := by
  intro earlier member
  rcases List.mem_append.mp member with old | new
  · exact before earlier old
  · rw [List.mem_singleton.mp new]
    exact faithful

/-- A program of nested blocks. A block may end in any way, and the program may go on with any ending. -/
inductive Nesting where
  /-- End. -/
  | finish (ending : Ending Json)
  /-- Ask for the invocation in progress. -/
  | current (next : Option Invocation → Nesting)
  /-- Make an invocation of a method, without showing it to anyone. -/
  | prepare (interface : Interface) (method : Signature) (next : Invocation → Nesting)
  /-- Work in a block and see how the work ends. -/
  | block (layer : Layer) (body : Nesting) (next : Ending Json → Nesting)

namespace Nesting

/-- Run a program inside of blocks. -/
def run : Nesting → List Layer → Run (List Observation) Json
  | .finish ending, _ => fun world => some (ending, world)
  | .current next, layers => fun world =>
      (next world.surroundings.current?).run layers
        (world.observe (.asked layers world.surroundings.current))
  | .prepare interface method next, layers => fun world =>
      let (invocation, world) := world.prepare interface method
      (next invocation).run layers world
  | .block layer body next, layers => fun world =>
      match layer.run (body.run (layer :: layers)) world with
      | none => none
      | some (ending, after) =>
          (next ending).run layers
            (after.observe (.left layer ending world.surroundings after.surroundings))

theorem run_faithful (nesting : Nesting) {layers : List Layer} {world : World (List Observation)}
    (within : world.surroundings = .inside layers)
    (faithful : ∀ observation ∈ world.state, observation.Faithful) :
    ∃ ending after, nesting.run layers world = some (ending, after) ∧
      after.surroundings = world.surroundings ∧
      ∀ observation ∈ after.state, observation.Faithful := by
  -- The stores are always those of the blocks around the point that the run has reached. A block adds
  -- itself to the list for its body, and restores the stores for what follows it.
  induction nesting generalizing layers world with
  | finish ending => exact ⟨ending, world, rfl, rfl, faithful⟩
  | current next ih =>
      have answered : (Observation.asked layers world.surroundings.current).Faithful := by
        rw [within]
        exact Surroundings.current_inside layers
      have here : (world.observe (.asked layers world.surroundings.current)).surroundings =
          .inside layers := within
      have outcome := ih world.surroundings.current? here (World.forall_mem_observe faithful answered)
      exact outcome
  | prepare interface method next ih =>
      have here : (world.prepare interface method).2.surroundings = .inside layers := within
      have outcome := ih (world.prepare interface method).1 here faithful
      exact outcome
  | block layer body next inner behind =>
      have deeper : layer.interior world.surroundings = .inside (layer :: layers) :=
        congrArg layer.interior within
      obtain ⟨ending, last, worked, kept, noted⟩ :=
        @inner (layer :: layers) { world with surroundings := layer.interior world.surroundings }
          deeper faithful
      have ran := Layer.run_of_kept worked kept
      have left : (Observation.left layer ending world.surroundings world.surroundings).Faithful := rfl
      obtain ⟨ended, after, continued, restored, all⟩ :=
        @behind ending layers
          ({ last with surroundings := world.surroundings }.observe
            (.left layer ending world.surroundings world.surroundings))
          within (World.forall_mem_observe noted left)
      refine ⟨ended, after, ?_, restored, all⟩
      simp only [run, ran]
      exact continued

/-- Programs may nest the blocks of guards and tasks in any order and leave each of them with a result, with
an error or by an abort. Whenever they ask for the invocation in progress, the answer is the one that the
list of the enclosing blocks gives. Behind each block the slot of the thread and the scope of the task are
what they were before it. -/
theorem answers_by_enclosing_blocks (nesting : Nesting) {layers : List Layer}
    {world : World (List Observation)} (within : world.surroundings = .inside layers)
    (blank : world.state = []) :
    ∃ ending after, nesting.run layers world = some (ending, after) ∧
      after.surroundings = world.surroundings ∧
      ∀ observation ∈ after.state, observation.Faithful := by
  refine nesting.run_faithful within ?_
  rw [blank]
  exact List.forall_mem_nil _

/-- A scope of the task inside of a guard, and a guard that leaves the decision to the task inside of both.
The innermost block is left by an abort, the next one with an error. -/
def deferring (first second : Invocation) : Nesting :=
  .block (.enter first)
    (.block (.scope second)
      (.block .defer (.current fun _ => .finish (.abort "")) fun _ =>
        .current fun _ => .finish (.failure .noInvocation))
      .finish)
    fun _ => .current fun _ => .finish (.value .null)

theorem answers_by_enclosing_blocks_deferring :
    let first : Invocation := ⟨.named "p.Users" "" "", ⟨"find", []⟩, 0⟩
    let second : Invocation := ⟨.named "p.Orders" "" "", ⟨"find", []⟩, 1⟩
    ∃ after, (deferring first second).run [] (.initial []) = some (.value .null, after) ∧
      after.surroundings = .initial ∧
      (∀ observation ∈ after.state, observation.Faithful) ∧
      .asked [.defer, .scope second, .enter first] (.ok second) ∈ after.state := by
  intro first second
  obtain ⟨ending, after, ran, restored, faithful⟩ :=
    @answers_by_enclosing_blocks (deferring first second) [] (.initial []) rfl rfl
  cases ran
  exact ⟨_, rfl, restored, faithful, List.mem_cons_self⟩

end Nesting
end FragmentAssembly
