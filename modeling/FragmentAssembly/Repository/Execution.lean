import FragmentAssembly.Fragment.Execution
import FragmentAssembly.Repository.Basic

/-!
# Calling a repository

A call is routed before anything else happens. Then the invocation is shown, or every invocation is
hidden, for exactly as long as the fragment runs. A direct call uses the slot of the thread; a scoped
call uses the scope of the task and leaves the decision to it.
-/

namespace FragmentAssembly

variable {σ : Type}

namespace Repository

/-- The invocation that a call shows, if the repository shows any. -/
def openInvocation (repository : Repository σ) (method : Signature) (world : World σ) :
    Option Invocation × World σ :=
  if repository.exposesMetadata then
    let (invocation, after) := world.prepare repository.interface method
    (some invocation, after)
  else
    (none, world)

/-- Call a method, with the invocation in the slot of the thread. -/
def invoke (answer : Call → Run σ Json) (repository : Repository σ) (method : Signature)
    (arguments : List Json) : Run σ Json := fun world =>
  let entered := world.report [.calling repository.interface.name method.display]
  match repository.target method with
  | .error error => some (.failure error, entered)
  | .ok fragment =>
      let (invocation, opened) := repository.openInvocation method entered
      Run.withThread (.ofInvocation? invocation)
        (fragment.invoke answer repository.interface.name method arguments) opened

/-- Call a method, with the invocation in a scope of the task. -/
def invokeScoped (answer : Call → Run σ Json) (repository : Repository σ) (method : Signature)
    (arguments : List Json) : Run σ Json := fun world =>
  match repository.target method with
  | .error error => some (.failure error, world)
  | .ok fragment =>
      let (invocation, opened) := repository.openInvocation method world
      Run.withTask (.ofInvocation? invocation)
        (Run.withThread .unset
          (fragment.invoke answer repository.interface.name method arguments)) opened

/-- Call a method in a style. -/
def perform (answer : Call → Run σ Json) (repository : Repository σ) (style : Style)
    (method : Signature) (arguments : List Json) : Run σ Json :=
  match style with
  | .direct => repository.invoke answer method arguments
  | .scoped => repository.invokeScoped answer method arguments

end Repository

/-- The repositories of an application, by name. -/
abbrev Directory (σ : Type) := String → Repository σ

/-- The directory of a list of repositories. A name that is not listed belongs to a repository without
methods. -/
def Directory.ofList (repositories : List (String × Repository σ)) : Directory σ := fun name =>
  (repositories.lookup name).getD (.ofComposition (.named name "" "") .empty false)

/-- Run a call that nests other calls at most to a depth. -/
def Directory.answer (directory : Directory σ) : Nat → Call → Run σ Json
  | 0, _ => fun _ => none
  | depth + 1, call =>
      (directory call.repository).perform (answer directory depth) call.style call.method
        call.arguments

end FragmentAssembly
