import FragmentAssembly.Proofs.Fragment.Stages
import FragmentAssembly.Proofs.Repository.Perform

/-!
# Runs restore their surroundings

A run may install values in the slot of the thread, enter scopes of the task, and call repositories that
do the same. When it ends, both stores are what they were before, whether it ends with a result, with an
error or by an abort.
-/

namespace FragmentAssembly

variable {σ α β : Type}

namespace Run

/-- However the run ends, its surroundings are those from before. -/
def Restores (run : Run σ α) : Prop :=
  ∀ ⦃world ending after⦄, run world = some (ending, after) →
    after.surroundings = world.surroundings

theorem restores_stop (ending : Ending α) : (stop ending : Run σ α).Restores := by
  intro world ended after ends
  cases ends
  rfl

theorem Restores.bind {first : Run σ α} {second : α → Run σ β} (before : first.Restores)
    (behind : ∀ result, (second result).Restores) : (first.bind second).Restores := by
  intro world ending after ends
  rw [Run.bind] at ends
  cases ran : first world with
  | none => simp [ran] at ends
  | some outcome =>
      obtain ⟨ended, middle⟩ := outcome
      have restored := before ran
      cases ended with
      | value result => exact (behind result (by simpa [ran] using ends)).trans restored
      | failure error =>
          simp only [ran, Option.some.injEq, Prod.mk.injEq] at ends
          rw [← ends.2, restored]
      | abort message =>
          simp only [ran, Option.some.injEq, Prod.mk.injEq] at ends
          rw [← ends.2, restored]

end Run

/-- A program drops the guards that it holds when it ends, and the calls that it makes restore what they
find. -/
theorem Program.surroundings_run {answer : Call → Run σ Json}
    (restores : ∀ request, (answer request).Restores) (program : Program σ α) (guards : List Guard)
    {world after : World σ} {ending : Ending α}
    (ends : program.run answer guards world = some (ending, after)) :
    after.surroundings = world.surroundings.releaseAll guards := by
  -- A guard that is taken holds the value that its slot had, so what dropping all guards would
  -- bring back is the same before and after each step.
  induction program generalizing guards world with
  | finish ended =>
      cases ends
      rfl
  | current next ih =>
      rw [run] at ends
      exact ih _ guards ends
  | prepare interface method next ih =>
      have restored := ih _ guards ends
      exact restored
  | enter invocation next ih =>
      have restored := ih (⟨world.surroundings.thread⟩ :: guards) ends
      exact restored
  | suppress next ih =>
      have restored := ih (⟨world.surroundings.thread⟩ :: guards) ends
      exact restored
  | release next ih =>
      rw [run] at ends
      cases guards with
      | nil => exact ih [] ends
      | cons guard others => exact ih others ends
  | read next ih =>
      rw [run] at ends
      exact ih _ guards ends
  | write state next ih =>
      have restored := ih guards ends
      exact restored
  | call request next ih =>
      simp only [run] at ends
      cases called : answer request world with
      | none => simp [called] at ends
      | some outcome =>
          obtain ⟨ended, middle⟩ := outcome
          rw [called] at ends
          rw [ih ended guards ends, restores request called]

theorem Fragment.restores_keep (contract : Contract) (source : Deferred σ)
    (implementation : Implementation σ) : (Fragment.keep contract source implementation).Restores := by
  intro world ending after ends
  rw [Fragment.keep] at ends
  split at ends
  · cases ends
    rfl
  · cases ends
    rfl

section Fragments

variable {answer : Call → Run σ Json} (restores : ∀ request, (answer request).Restores)

include restores

theorem Program.restores_run (program : Program σ α) : (program.run answer []).Restores :=
  fun _ _ _ ends => Program.surroundings_run restores program [] ends

theorem Fragment.restores_materialize (contract : Contract) (source : Deferred σ) :
    (Fragment.materialize answer contract source).Restores := by
  intro world ending after ends
  rw [Fragment.materialize_eq] at ends
  split at ends
  · exact Run.restores_stop _ ends
  · have restored := (Program.restores_run restores source.factory).bind
      (Fragment.restores_keep contract source) ends
    exact restored

theorem Fragment.restores_implementation (fragment : Fragment σ) :
    (fragment.implementation answer).Restores := by
  rw [Fragment.implementation_eq]
  split
  · exact Run.restores_stop _
  · exact Run.restores_stop _
  · exact (Fragment.restores_materialize restores _ _).bind fun _ => Run.restores_stop _

theorem Fragment.restores_invoke (fragment : Fragment σ) (interface : String) (method : Signature)
    (arguments : List Json) : (fragment.invoke answer interface method arguments).Restores := by
  rw [Fragment.invoke_eq]
  refine (Fragment.restores_implementation restores fragment).bind ?_
  rintro (_ | implementation)
  · exact Run.restores_stop _
  · exact Program.restores_run restores _

theorem Repository.restores_perform (repository : Repository σ) (style : Style) (method : Signature)
    (arguments : List Json) : (repository.perform answer style method arguments).Restores := by
  intro world ending after ends
  rw [Repository.perform_eq] at ends
  cases routed : repository.target method with
  | error error =>
      rw [routed] at ends
      cases ends
      rfl
  | ok fragment =>
      simp only [routed] at ends
      have kept := surroundings_openInvocation repository method
        (world.report (style.notices repository.interface.name method.display))
      generalize repository.openInvocation method _ = result at ends kept
      obtain ⟨shown, opened⟩ := result
      obtain ⟨⟨ended, inner⟩, ran, left⟩ := Option.map_eq_some_iff.mp ends
      cases left
      have restored := Fragment.restores_invoke restores fragment _ _ _ ran
      rw [restored, Style.leave_enter]
      exact kept

end Fragments

theorem Directory.restores_answer (directory : Directory σ) (depth : Nat) (request : Call) :
    (directory.answer depth request).Restores := by
  induction depth generalizing request with
  | zero =>
      intro world ending after ends
      simp [answer] at ends
  | succ depth ih => exact Repository.restores_perform ih _ _ _ _

end FragmentAssembly
