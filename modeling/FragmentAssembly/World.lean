import FragmentAssembly.Fragment.Basic
import FragmentAssembly.Notice

/-!
# The world of a run

What a run changes: the stores of the invocation in progress, the cells of instances, the notices, and
the state of the application. A run ends with a result, an error or an abort, and with a new world; it
has no outcome if it is cut off before it ends.
-/

namespace FragmentAssembly

variable {σ α β ι : Type}

/-- Cells that are empty until they are filled, handed out by number. -/
structure Cells (ι : Type) where
  /-- The first number that was not handed out. -/
  next : Nat
  /-- The content of a cell. -/
  content? : Nat → Option ι
  /-- A cell that was not handed out is empty. -/
  fresh : ∀ cell, next ≤ cell → content? cell = none

namespace Cells

/-- No cells. -/
def empty : Cells ι where
  next := 0
  content? := fun _ => none
  fresh := fun _ _ => rfl

/-- Hand out more cells. -/
def reserve (cells : Cells ι) (count : Nat) : Cells ι where
  next := cells.next + count
  content? := cells.content?
  fresh := fun cell unused => cells.fresh cell (Nat.le_trans (Nat.le_add_right _ _) unused)

/-- Fill a cell. -/
def fill (cells : Cells ι) (cell : Nat) (content : ι) : Cells ι where
  next := max cells.next (cell + 1)
  content? := fun other => if other = cell then some content else cells.content? other
  fresh := by
    intro other unused
    have different : other ≠ cell := by omega
    simp only [different, if_false]
    exact cells.fresh other (by omega)

end Cells

/-- What a run changes. -/
structure World (σ : Type) where
  /-- The stores of the invocation in progress. -/
  surroundings : Surroundings
  /-- The number of the next invocation. -/
  nextInvocation : Nat
  /-- The instances that factories made. -/
  instances : Cells (Implementation σ)
  /-- What was reported, from the first notice to the last. -/
  notices : List Notice
  /-- The state of the application. -/
  state : σ

namespace World

/-- The world at the start of a thread. -/
def initial (state : σ) : World σ where
  surroundings := .initial
  nextInvocation := 0
  instances := .empty
  notices := []
  state := state

/-- Report notices. -/
def report (world : World σ) (notices : List Notice) : World σ :=
  { world with notices := world.notices ++ notices }

/-- Make an invocation of a method. -/
def prepare (world : World σ) (interface : Interface) (method : Signature) : Invocation × World σ :=
  (⟨interface, method, world.nextInvocation⟩,
    { world with nextInvocation := world.nextInvocation + 1 })

/-- Put a value into the slot of the thread. -/
def install (world : World σ) (slot : ThreadSlot) : Guard × World σ :=
  let (guard, surroundings) := world.surroundings.install slot
  (guard, { world with surroundings })

/-- Drop a guard. -/
def release (world : World σ) (guard : Guard) : World σ :=
  { world with surroundings := world.surroundings.release guard }

/-- Drop guards, from the first to the last. -/
def releaseAll (world : World σ) (guards : List Guard) : World σ :=
  { world with surroundings := world.surroundings.releaseAll guards }

/-- Hand out cells. -/
def reserve (world : World σ) (count : Nat) : World σ :=
  { world with instances := world.instances.reserve count }

/-- A fragment whose implementation is made on first use, with a new cell. -/
def defer (world : World σ) (contract : Contract) (typeName : String) (factory : Factory σ) :
    Fragment σ × World σ :=
  (.deferred contract { typeName, factory, cell := world.instances.next }, world.reserve 1)

/-- Fill a cell. -/
def fill (world : World σ) (cell : Nat) (implementation : Implementation σ) : World σ :=
  { world with instances := world.instances.fill cell implementation }

/-- Whether the instance of a fragment exists. -/
def isMaterialized (world : World σ) (fragment : Fragment σ) : Bool :=
  match fragment.binding with
  | none => false
  | some (.eager _) => true
  | some (.deferred source) => (world.instances.content? source.cell).isSome

end World

/-- A run in a world. -/
abbrev Run (σ α : Type) := World σ → Option (Ending α × World σ)

namespace Run

/-- Run with a value in the slot of the thread. The old value is put back however the run ends. -/
def withThread (slot : ThreadSlot) (body : Run σ α) : Run σ α := fun world =>
  let (guard, inner) := world.install slot
  match body inner with
  | none => none
  | some (ending, after) => some (ending, after.release guard)

/-- Run in a scope of the task. The enclosing scope is put back however the run ends. -/
def withTask (scope : TaskScope) (body : Run σ α) : Run σ α := fun world =>
  match body { world with surroundings := { world.surroundings with task := scope } } with
  | none => none
  | some (ending, after) =>
      some
        (ending,
          { after with surroundings := { after.surroundings with task := world.surroundings.task } })

end Run

/-- Run a program that holds guards, the last one taken first. `answer` runs the calls it makes. -/
def Program.run (answer : Call → Run σ Json) (guards : List Guard) : Program σ α → Run σ α
  | .finish ending => fun world => some (ending, world.releaseAll guards)
  | .current next => fun world =>
      (next world.surroundings.current?).run answer guards world
  | .prepare interface method next => fun world =>
      let (invocation, world) := world.prepare interface method
      (next invocation).run answer guards world
  | .enter invocation next => fun world =>
      let (guard, world) := world.install (.active invocation)
      next.run answer (guard :: guards) world
  | .suppress next => fun world =>
      let (guard, world) := world.install .hidden
      next.run answer (guard :: guards) world
  | .release next => fun world =>
      match guards with
      | [] => next.run answer [] world
      | guard :: others => next.run answer others (world.release guard)
  | .read next => fun world => (next world.state).run answer guards world
  | .write state next => fun world => next.run answer guards { world with state }
  | .call request next => fun world =>
      match answer request world with
      | none => none
      | some (ending, world) => (next ending).run answer guards world

end FragmentAssembly
