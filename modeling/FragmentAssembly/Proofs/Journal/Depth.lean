import FragmentAssembly.Proofs.Journal.Recording

/-!
# The depth of a run

The bound on the depth of nested calls only cuts runs off. A call that ends within a bound ends in the
same way, and with the same journal, within every larger one.
-/

namespace FragmentAssembly

variable {σ α β : Type}

namespace Recorded

/-- Whenever the run ends, the other one ends in the same way. -/
def ExtendedBy (recorded other : Recorded σ α) : Prop :=
  ∀ ⦃world outcome⦄, recorded world = some outcome → other world = some outcome

theorem extendedBy_refl (recorded : Recorded σ α) : recorded.ExtendedBy recorded :=
  fun _ _ ends => ends

theorem ExtendedBy.within {recorded other : Recorded σ α} (extended : recorded.ExtendedBy other)
    (entry : Journal → Journal) : (within entry recorded).ExtendedBy (within entry other) := by
  intro world outcome ends
  obtain ⟨inner, ran, same⟩ := Option.map_eq_some_iff.mp ends
  rw [Recorded.within, extended ran]
  exact congrArg some same

theorem ExtendedBy.bind {first other : Recorded σ α} {second continued : α → Recorded σ β}
    (begins : first.ExtendedBy other)
    (continues : ∀ result, (second result).ExtendedBy (continued result)) :
    (first.bind second).ExtendedBy (other.bind continued) := by
  intro world outcome ends
  rw [Recorded.bind] at ends ⊢
  cases began : first world with
  | none => simp [began] at ends
  | some reached =>
      obtain ⟨ended, middle, journal⟩ := reached
      rw [began] at ends
      rw [begins began]
      cases ended with
      | value result => exact (continues result).within journal.append ends
      | failure error => exact ends
      | abort message => exact ends

end Recorded

section Calls

variable {answer deeper : Call → Recorded σ Json}
  (extended : ∀ request, (answer request).ExtendedBy (deeper request))

include extended

theorem Program.extendedBy_record (program : Program σ α) (guards : List Guard) :
    (program.record answer guards).ExtendedBy (program.record deeper guards) := by
  induction program generalizing guards with
  | finish ending => exact Recorded.extendedBy_refl _
  | current next ih =>
      intro world outcome ends
      exact (ih world.surroundings.current? guards).within (.read world.surroundings.current) ends
  | prepare interface method next ih =>
      intro world outcome ends
      exact ih _ guards ends
  | enter invocation next ih =>
      intro world outcome ends
      exact ih _ ends
  | suppress next ih =>
      intro world outcome ends
      exact ih _ ends
  | release next ih =>
      cases guards with
      | nil => exact ih []
      | cons guard others =>
          intro world outcome ends
          exact ih others ends
  | read next ih =>
      intro world outcome ends
      exact ih world.state guards ends
  | write state next ih =>
      intro world outcome ends
      exact ih guards ends
  | call request next ih =>
      intro world outcome ends
      simp only [record] at ends ⊢
      cases called : answer request world with
      | none => simp [called] at ends
      | some reached =>
          obtain ⟨ended, middle, journal⟩ := reached
          rw [called] at ends
          rw [extended request called]
          exact (ih ended guards).within journal.append ends

namespace Fragment

theorem extendedBy_recordMaterialize (contract : Contract) (source : Deferred σ) :
    (recordMaterialize answer contract source).ExtendedBy
      (recordMaterialize deeper contract source) := by
  intro world outcome ends
  rw [recordMaterialize] at ends ⊢
  cases kept : world.instances.content? source.cell with
  | some implementation =>
      rw [kept] at ends
      exact ends
  | none =>
      rw [kept] at ends
      have made := (Program.extendedBy_record extended source.factory []).within
        (.make source.typeName · .done)
      exact made.bind (fun _ => Recorded.extendedBy_refl _) ends

theorem extendedBy_recordImplementation (fragment : Fragment σ) :
    (fragment.recordImplementation answer).ExtendedBy (fragment.recordImplementation deeper) := by
  rw [recordImplementation, recordImplementation]
  cases fragment.binding with
  | none => exact Recorded.extendedBy_refl _
  | some binding =>
      cases binding with
      | eager implementation => exact Recorded.extendedBy_refl _
      | deferred source =>
          exact (extendedBy_recordMaterialize extended fragment.contract source).bind
            fun _ => Recorded.extendedBy_refl _

theorem extendedBy_recordInvoke (fragment : Fragment σ) (interface : String) (method : Signature)
    (arguments : List Json) :
    (fragment.recordInvoke answer interface method arguments).ExtendedBy
      (fragment.recordInvoke deeper interface method arguments) := by
  refine (extendedBy_recordImplementation extended fragment).bind ?_
  rintro (_ | implementation)
  · exact Recorded.extendedBy_refl _
  · have works := Program.extendedBy_record extended (implementation.invoke method arguments) []
    exact works.within (.serve implementation.typeName method arguments · .done)

end Fragment

theorem Repository.extendedBy_record (repository : Repository σ) (request : Call) :
    (repository.record answer request).ExtendedBy (repository.record deeper request) := by
  intro world outcome ends
  rw [record] at ends ⊢
  cases routed : repository.target request.method with
  | error error =>
      simp only [routed] at ends ⊢
      exact ends
  | ok fragment =>
      simp only [routed] at ends ⊢
      obtain ⟨inner, ran, same⟩ := Option.map_eq_some_iff.mp ends
      rw [Fragment.extendedBy_recordInvoke extended fragment _ _ _ ran]
      exact congrArg some same

end Calls

namespace Directory

variable (directory : Directory σ)

theorem extendedBy_record_succ (depth : Nat) (request : Call) :
    (directory.record depth request).ExtendedBy (directory.record (depth + 1) request) := by
  induction depth generalizing request with
  | zero =>
      intro world outcome ends
      cases ends
  | succ depth ih => exact Repository.extendedBy_record ih (directory request.repository) request

/-- A larger bound changes nothing about a call that ends. -/
theorem extendedBy_record_of_le {depth larger : Nat} (le : depth ≤ larger) (request : Call) :
    (directory.record depth request).ExtendedBy (directory.record larger request) := by
  induction le with
  | refl => exact Recorded.extendedBy_refl _
  | step _ ih =>
      intro world outcome ends
      exact directory.extendedBy_record_succ _ request (ih ends)

end Directory
end FragmentAssembly
