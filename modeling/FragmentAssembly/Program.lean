import FragmentAssembly.Error
import FragmentAssembly.Invocation
import FragmentAssembly.Json.Basic

/-!
# Programs of an application

Implementations and the factories that make them belong to the application. What they do is a tree:
each node asks for one thing, and the answer selects the rest of the program. A program can ask for the
invocation in progress, hold guards, keep a state of its own, and call repositories by name.
-/

namespace FragmentAssembly

/-- How a program ends. -/
inductive Ending (α : Type) where
  /-- With a result. -/
  | value (result : α)
  /-- With an error for the caller. -/
  | failure (error : Error)
  /-- By giving up; every call in progress ends the same way. -/
  | abort (message : String)

/-- How a repository shows its invocation to the implementation it calls. -/
inductive Style where
  /-- In the slot of the thread. -/
  | direct
  /-- In the scope of the task. -/
  | scoped
  deriving DecidableEq

/-- A call of a repository. -/
structure Call where
  /-- Name of the repository. -/
  repository : String
  /-- How the invocation is shown. -/
  style : Style
  /-- The method that is called. -/
  method : Signature
  /-- The arguments of the call. -/
  arguments : List Json

/-- A program with state `σ` and results in `α`. Guards that it holds when it ends are dropped. -/
inductive Program (σ α : Type) where
  /-- End. -/
  | finish (ending : Ending α)
  /-- Ask for the invocation in progress. -/
  | current (next : Option Invocation → Program σ α)
  /-- Make an invocation of a method, without showing it to anyone. -/
  | prepare (interface : Interface) (method : Signature) (next : Invocation → Program σ α)
  /-- Show an invocation until the guard is dropped. -/
  | enter (invocation : Invocation) (next : Program σ α)
  /-- Hide every invocation until the guard is dropped. -/
  | suppress (next : Program σ α)
  /-- Drop the guard that was taken last and is still held. -/
  | release (next : Program σ α)
  /-- Look at the state. -/
  | read (next : σ → Program σ α)
  /-- Replace the state. -/
  | write (state : σ) (next : Program σ α)
  /-- Call a repository and see how the call ends. -/
  | call (request : Call) (next : Ending Json → Program σ α)

namespace Ending

/-- The same ending, with another result. -/
def map {α β : Type} (function : α → β) : Ending α → Ending β
  | .value result => .value (function result)
  | .failure error => .failure error
  | .abort message => .abort message

/-- The ending of a computation that succeeds or fails. -/
def ofExcept {α : Type} : Except Error α → Ending α
  | .ok result => .value result
  | .error error => .failure error

end Ending

namespace Program

variable {σ α β : Type}

/-- Run a second program on the result of a first one. -/
def bind (first : Program σ α) (second : α → Program σ β) : Program σ β :=
  match first with
  | .finish (.value result) => second result
  | .finish (.failure error) => .finish (.failure error)
  | .finish (.abort message) => .finish (.abort message)
  | .current next => .current fun invocation => (next invocation).bind second
  | .prepare interface method next =>
      .prepare interface method fun invocation => (next invocation).bind second
  | .enter invocation next => .enter invocation (next.bind second)
  | .suppress next => .suppress (next.bind second)
  | .release next => .release (next.bind second)
  | .read next => .read fun state => (next state).bind second
  | .write state next => .write state (next.bind second)
  | .call request next => .call request fun ending => (next ending).bind second

instance : Monad (Program σ) where
  pure result := .finish (.value result)
  bind := bind

/-- End with an error. -/
def fail (error : Error) : Program σ α :=
  .finish (.failure error)

/-- Give up. -/
def abort (message : String) : Program σ α :=
  .finish (.abort message)

/-- The invocation in progress, if there is one. -/
def current? : Program σ (Option Invocation) :=
  .current fun invocation => .finish (.value invocation)

/-- Compute a result and a new state from the state. -/
def update (change : σ → α × σ) : Program σ α :=
  .read fun state => .write (change state).2 (.finish (.value (change state).1))

/-- Call a repository. A call that is aborted aborts the program. -/
def callRepository (request : Call) : Program σ (Except Error Json) :=
  .call request fun
    | .value result => .finish (.value (.ok result))
    | .failure error => .finish (.value (.error error))
    | .abort message => .finish (.abort message)

end Program
end FragmentAssembly
