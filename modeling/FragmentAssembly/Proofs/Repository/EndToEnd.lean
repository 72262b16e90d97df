import FragmentAssembly.Proofs.Invocation.Restoration
import FragmentAssembly.Proofs.Journal.Recording
import FragmentAssembly.Proofs.Repository.Routing

/-!
# Calls from end to end

A call is refused before anything runs, or it is a call of the first fragment that declares its method,
in surroundings that answer for the call alone.
-/

namespace FragmentAssembly
namespace Repository

variable {σ : Type}

/-- A call without a route runs nothing and leaves its surroundings alone. -/
theorem record_of_target_error {repository : Repository σ} {request : Call} {error : Error}
    (routed : repository.target request.method = .error error) (answer : Call → Recorded σ Json)
    (before : World σ) :
    repository.record answer request before =
      some
        (.failure error,
          before.report (request.style.notices repository.interface.name request.method.display),
          .refuse request before.surroundings.current before.surroundings.current .done) := by
  rw [record, routed]
  rfl

/-- A call with a route is a call of the fragment, in surroundings that show what the call opens. -/
theorem perform_of_target_ok {repository : Repository σ} {answer : Call → Run σ Json}
    (restores : ∀ request, (answer request).Restores) {style : Style} {method : Signature}
    {fragment : Fragment σ} (routed : repository.target method = .ok fragment) (arguments : List Json)
    (before : World σ) :
    ∃ inside : World σ,
      inside.surroundings.current =
          (if repository.exposesMetadata then
            .ok ⟨repository.interface, method, before.nextInvocation⟩
          else
            .error .noInvocation) ∧
        { inside with
            surroundings := before.surroundings
            nextInvocation := before.nextInvocation } =
          before.report (style.notices repository.interface.name method.display) ∧
        inside.nextInvocation =
          before.nextInvocation + (if repository.exposesMetadata then 1 else 0) ∧
        repository.perform answer style method arguments before =
          (fragment.invoke answer repository.interface.name method arguments inside).map
            fun (ending, after) => (ending, { after with surroundings := before.surroundings }) := by
  have restored := Fragment.restores_invoke restores fragment repository.interface.name method arguments
  rw [perform_eq]
  simp only [routed]
  rcases repository.openInvocation_cases method
      (before.report (style.notices repository.interface.name method.display))
    with ⟨hides, same⟩ | ⟨exposes, made⟩
  · rw [same]
    refine ⟨_, ?_, rfl, ?_, Option.map_congr ?_⟩
    · rw [Style.current_enter, hides]
      rfl
    · rw [hides]
      rfl
    · intro ⟨ending, after⟩ ran
      rw [restored ran, Style.leave_enter]
      rfl
  · rw [made]
    refine ⟨_, ?_, rfl, ?_, Option.map_congr ?_⟩
    · rw [Style.current_enter, exposes]
      rfl
    · rw [exposes]
      rfl
    · intro ⟨ending, after⟩ ran
      rw [restored ran, Style.leave_enter]
      rfl

/-- A call of a repository is refused as not found exactly if no slot declares its method, and as not
implemented if the first slot that declares it is a placeholder, whatever comes behind; then it runs
nothing. Otherwise it is a call of that first fragment, run where the call's own invocation is in
progress if the repository shows it, and none if not, and the surroundings are back afterwards. -/
theorem dispatch_end_to_end {repository : Repository σ} (built : repository.Built)
    (directory : Directory σ) (depth : Nat) (request : Call) (before : World σ) :
    let performed := repository.perform (directory.answer depth) request.style request.method
      request.arguments before
    let recorded := repository.record (directory.record depth) request before
    let entered :=
      before.report (request.style.notices repository.interface.name request.method.display)
    let refused : Journal :=
      .refuse request before.surroundings.current before.surroundings.current .done
    performed = recorded.map (fun (ending, after, _) => (ending, after)) ∧
      (repository.declares request.method = false ↔
        ∀ fragment ∈ repository.composition.slots, fragment.hasMethod request.method = false) ∧
      (repository.declares request.method = true ↔
        ∃ target, repository.composition.DeclaresFirst request.method target) ∧
      (repository.declares request.method = false →
        recorded =
          some
            (.failure (.methodNotFound repository.interface.name request.method.display), entered,
              refused)) ∧
      ∀ target, repository.composition.DeclaresFirst request.method target →
        (target.fragment.isImplemented = false →
          recorded =
            some
              (.failure (.noImplementation repository.interface.name target.fragment.contract),
                entered, refused)) ∧
        (target.fragment.isImplemented = true →
          ∃ inside : World σ,
            inside.surroundings.current =
                (if repository.exposesMetadata then
                  .ok ⟨repository.interface, request.method, before.nextInvocation⟩
                else
                  .error .noInvocation) ∧
              { inside with
                  surroundings := before.surroundings
                  nextInvocation := before.nextInvocation } = entered ∧
              inside.nextInvocation =
                before.nextInvocation + (if repository.exposesMetadata then 1 else 0) ∧
              performed =
                (target.fragment.invoke (directory.answer depth) repository.interface.name
                  request.method request.arguments inside).map
                  fun (ending, after) =>
                    (ending, { after with surroundings := before.surroundings })) := by
  intro performed recorded entered refused
  refine ⟨?_, repository.declares_eq_false_iff request.method,
    repository.declares_iff_exists_declaresFirst request.method, ?_, ?_⟩
  · have forgotten := congrFun (repository.forget_record (directory.record depth) request) before
    simp only [Directory.forget_record] at forgotten
    exact forgotten.symm
  · intro undeclared
    exact record_of_target_error (target_of_not_declares undeclared) _ before
  · intro target first
    have routed := target_of_declaresFirst first
    constructor
    · intro placeholder
      rw [placeholder, built.interfaceName] at routed
      exact record_of_target_error routed _ before
    · intro implemented
      rw [if_pos implemented] at routed
      exact perform_of_target_ok (directory.restores_answer depth) routed request.arguments before

/-- Fragments that were attached to another interface, where a placeholder stands in front of an
implementation of the same method. -/
def shadowed : Repository Unit :=
  .ofComposition (.named "front" "" "")
    ((Composition.ofList
      [.placeholder ((Contract.named "Search").withMethods [⟨"find", []⟩]),
        .deferred ((Contract.named "Base").withMethods [⟨"find", []⟩])
          { typeName := "BaseImpl", factory := .abort "", cell := 0 }]).attach "stale")
    true

theorem dispatch_end_to_end_shadowed :
    shadowed.Built ∧
      shadowed.record (Directory.record (fun _ => shadowed) 1) ⟨"front", .direct, ⟨"find", []⟩, []⟩
          (World.initial ()) =
        some
          (.failure (.noImplementation "front" ((Contract.named "Search").withMethods [⟨"find", []⟩])),
            (World.initial ()).report [.calling "front" "find()"],
            .refuse ⟨"front", .direct, ⟨"find", []⟩, []⟩ (.error .noInvocation) (.error .noInvocation)
              .done) := by
  have built : shadowed.Built := .ofComposition _ _ _
  have first : shadowed.composition.DeclaresFirst ⟨"find", []⟩
      ⟨0, .placeholder ((Contract.named "Search").withMethods [⟨"find", []⟩])⟩ := by
    refine ⟨by decide, rfl, by decide, ?_⟩
    intro earlier fragment before
    exact absurd before (Nat.not_lt_zero earlier)
  obtain ⟨-, -, -, -, routed⟩ := dispatch_end_to_end built (fun _ => shadowed) 1
    ⟨"front", .direct, ⟨"find", []⟩, []⟩ (World.initial ())
  exact ⟨built, (routed _ first).1 rfl⟩

end Repository
end FragmentAssembly
