import FragmentAssembly.Error
import FragmentAssembly.Interface

/-!
# The invocation in progress

An implementation can ask which call it serves. Two stores answer: a slot of the thread and, where the
slot leaves the answer open, a scope of the task. A guard installs a value in the slot and puts back the
value it found there.
-/

namespace FragmentAssembly

/-- A call that is in progress. -/
structure Invocation where
  /-- The repository that is called. -/
  interface : Interface
  /-- The method that is called. -/
  method : Signature
  /-- Number of the call; no two calls of a run have the same. -/
  id : Nat

/-- What the thread says about the invocation in progress. -/
inductive ThreadSlot where
  /-- The task decides. -/
  | unset
  /-- There is none. -/
  | hidden
  /-- There is one. -/
  | active (invocation : Invocation)

/-- What the task says about the invocation in progress. -/
inductive TaskScope where
  /-- The task is in no scope. -/
  | outside
  /-- The innermost scope hides every invocation. -/
  | hidden
  /-- The innermost scope belongs to an invocation. -/
  | active (invocation : Invocation)

/-- The stores that are consulted for the invocation in progress. -/
structure Surroundings where
  /-- The slot of the thread. -/
  thread : ThreadSlot
  /-- The scope of the task. -/
  task : TaskScope

/-- What a guard puts back into the slot of the thread. -/
structure Guard where
  /-- The value that the guard replaced. -/
  previous : ThreadSlot

/-- The answer to a question for the invocation in progress. -/
def Invocation.reply : Option Invocation → Except Error Invocation
  | some invocation => .ok invocation
  | none => .error .noInvocation

namespace TaskScope

/-- The invocation of the innermost scope. -/
def current? : TaskScope → Option Invocation
  | .active invocation => some invocation
  | .outside => none
  | .hidden => none

/-- The scope of a call that may or may not have an invocation to show. -/
def ofInvocation? : Option Invocation → TaskScope
  | some invocation => .active invocation
  | none => .hidden

end TaskScope

namespace ThreadSlot

/-- The slot of a call that may or may not have an invocation to show. -/
def ofInvocation? : Option Invocation → ThreadSlot
  | some invocation => .active invocation
  | none => .hidden

end ThreadSlot

namespace Surroundings

/-- The surroundings of a new thread. -/
def initial : Surroundings := ⟨.unset, .outside⟩

/-- The invocation in progress: the thread decides, unless it leaves the decision to the task. -/
def current? (surroundings : Surroundings) : Option Invocation :=
  match surroundings.thread with
  | .active invocation => some invocation
  | .hidden => none
  | .unset => surroundings.task.current?

/-- The invocation in progress; there must be one. -/
def current (surroundings : Surroundings) : Except Error Invocation :=
  Invocation.reply surroundings.current?

/-- Put a value into the slot of the thread, and return the guard that puts back the old one. -/
def install (surroundings : Surroundings) (slot : ThreadSlot) : Guard × Surroundings :=
  (⟨surroundings.thread⟩, { surroundings with thread := slot })

/-- Drop a guard. -/
def release (surroundings : Surroundings) (guard : Guard) : Surroundings :=
  { surroundings with thread := guard.previous }

/-- Drop guards, from the first to the last. -/
def releaseAll (surroundings : Surroundings) (guards : List Guard) : Surroundings :=
  guards.foldl release surroundings

end Surroundings

/-- A piece of work with surroundings of its own. -/
inductive Block where
  /-- Work in a scope of the task that shows an invocation. -/
  | scope (invocation : Invocation)
  /-- Work in a scope of the task that hides every invocation. -/
  | absence
  /-- A new task of the same thread, which the work around it waits for. -/
  | task
  /-- A new thread, which the work around it waits for. -/
  | thread

namespace Block

/-- The surroundings in which the work starts. A new task sees the slot of its thread; a new thread
sees nothing. -/
def enter (block : Block) (outer : Surroundings) : Surroundings :=
  match block with
  | .scope invocation => { outer with task := .active invocation }
  | .absence => { outer with task := .hidden }
  | .task => { outer with task := .outside }
  | .thread => .initial

/-- The surroundings after the work. The scope of the task is the one from before; so is the slot of the
thread, if the work had a thread of its own. -/
def leave (block : Block) (outer inner : Surroundings) : Surroundings :=
  match block with
  | .thread => outer
  | _ => { inner with task := outer.task }

end Block
end FragmentAssembly
