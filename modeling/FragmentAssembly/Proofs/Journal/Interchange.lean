import FragmentAssembly.Proofs.Repository.EndToEnd

/-!
# Both styles do the same

A run looks at its surroundings only to ask for the invocation in progress. So it does the same wherever
the answer is the same, whichever of the two stores gives it, as long as the stores keep giving the same
answers while guards come and go. A direct call and a scoped call install the same invocation in different
stores; nothing that runs inside of them can tell which.
-/

namespace FragmentAssembly

variable {σ α β : Type}

namespace Surroundings

/-- Two surroundings answer alike, now and after each of the guards that are held is dropped. -/
def Alike : Surroundings → List Guard → Surroundings → List Guard → Prop
  | left, [], right, [] => left.current? = right.current?
  | left, guard :: guards, right, other :: others =>
      left.current? = right.current? ∧ Alike (left.release guard) guards (right.release other) others
  | _, _, _, _ => False

theorem Alike.current?_eq {left right : Surroundings} {guards others : List Guard}
    (alike : left.Alike guards right others) : left.current? = right.current? := by
  cases guards with
  | nil =>
      cases others with
      | nil => exact alike
      | cons other others => exact alike.elim
  | cons guard guards =>
      cases others with
      | nil => exact alike.elim
      | cons other others => exact alike.1

/-- A guard that is taken on both sides keeps the value that its own side had, so dropping both brings
back surroundings that are alike. -/
theorem Alike.install {left right : Surroundings} {guards others : List Guard}
    (alike : left.Alike guards right others) (slot : ThreadSlot) (decides : slot ≠ .unset) :
    (left.install slot).2.Alike ((left.install slot).1 :: guards) (right.install slot).2
      ((right.install slot).1 :: others) := by
  refine ⟨?_, alike⟩
  cases slot with
  | unset => exact absurd rfl decides
  | hidden => rfl
  | active invocation => rfl

end Surroundings

namespace World

/-- The same world in other surroundings and with more notices before its own. -/
def moved (world : World σ) (surroundings : Surroundings) (earlier : List Notice) : World σ :=
  { world with surroundings, notices := earlier ++ world.notices }

theorem moved_report (world : World σ) (surroundings : Surroundings) (earlier notices : List Notice) :
    (world.moved surroundings earlier).report notices =
      (world.report notices).moved surroundings earlier := by
  simp only [moved, report, List.append_assoc]

end World

namespace Recorded

/-- A recorded run that ends in a world, moved as its start was. -/
def movedOutcome (surroundings : Surroundings) (earlier : List Notice) :
    Ending α × World σ × Journal → Ending α × World σ × Journal :=
  fun (ending, after, journal) => (ending, after.moved surroundings earlier, journal)

/-- The run does the same in all surroundings that show the same invocation. -/
def Oblivious (recorded : Recorded σ α) : Prop :=
  ∀ ⦃world : World σ⦄ ⦃surroundings : Surroundings⦄ (earlier : List Notice),
    world.surroundings.current? = surroundings.current? →
      recorded (world.moved surroundings earlier) =
        (recorded world).map (movedOutcome surroundings earlier)

theorem oblivious_stop (ending : Ending α) : (silent (.stop ending) : Recorded σ α).Oblivious :=
  fun _ _ _ _ => rfl

theorem Oblivious.within {recorded : Recorded σ α} (oblivious : recorded.Oblivious)
    (entry : Journal → Journal) : (within entry recorded).Oblivious := by
  intro world surroundings earlier same
  rw [Recorded.within, Recorded.within, oblivious earlier same, Option.map_map, Option.map_map]
  rfl

/-- The second stage starts where the first one started, because that one restored its surroundings. -/
theorem Oblivious.bind {first : Recorded σ α} {second : α → Recorded σ β}
    (restores : first.forget.Restores) (oblivious : first.Oblivious)
    (continues : ∀ result, (second result).Oblivious) : (first.bind second).Oblivious := by
  intro world surroundings earlier same
  rw [Recorded.bind, Recorded.bind, oblivious earlier same]
  cases began : first world with
  | none => rfl
  | some reached =>
      obtain ⟨ended, middle, journal⟩ := reached
      cases ended with
      | value result =>
          have restored : middle.surroundings = world.surroundings := restores (forget_eq_some began)
          have alike : middle.surroundings.current? = surroundings.current? := by
            rw [restored, same]
          exact (continues result).within journal.append earlier alike
      | failure error => rfl
      | abort message => rfl

end Recorded

section Calls

variable {answer : Call → Recorded σ Json} (restores : ∀ request, (answer request).forget.Restores)
  (oblivious : ∀ request, (answer request).Oblivious)

include restores oblivious

/-- A program does the same wherever its surroundings are alike for the guards that it holds. -/
theorem Program.record_moved (program : Program σ α) {guards others : List Guard} {world : World σ}
    {surroundings : Surroundings} (earlier : List Notice)
    (alike : world.surroundings.Alike guards surroundings others) :
    program.record answer others (world.moved surroundings earlier) =
      (program.record answer guards world).map
        (Recorded.movedOutcome (surroundings.releaseAll others) earlier) := by
  induction program generalizing guards others world surroundings with
  | finish ending => rfl
  | current next ih =>
      have same := alike.current?_eq
      have answered : (world.moved surroundings earlier).surroundings.current =
          world.surroundings.current := by
        rw [Surroundings.current, Surroundings.current, same]
        rfl
      have continued := ih world.surroundings.current? alike
      simp only [record, Recorded.within, answered]
      change Option.map _ ((next surroundings.current?).record answer others _) = _
      rw [← same, continued, Option.map_map, Option.map_map]
      rfl
  | prepare interface method next ih =>
      have made : (world.prepare interface method).2.surroundings = world.surroundings := rfl
      rw [← made] at alike
      exact ih _ alike
  | enter invocation next ih =>
      have installed : (world.install (.active invocation)).2.surroundings.Alike _ _ _ :=
        alike.install (.active invocation) (by simp)
      exact ih installed
  | suppress next ih =>
      have installed : (world.install .hidden).2.surroundings.Alike _ _ _ :=
        alike.install .hidden (by simp)
      exact ih installed
  | release next ih =>
      cases guards with
      | nil =>
          cases others with
          | nil => exact ih alike
          | cons other others => exact alike.elim
      | cons guard guards =>
          cases others with
          | nil => exact alike.elim
          | cons other others =>
              have dropped : (world.release guard).surroundings.Alike _ _ _ := alike.2
              exact ih dropped
  | read next ih => exact ih world.state alike
  | write state next ih =>
      have written : World.surroundings { world with state } = world.surroundings := rfl
      rw [← written] at alike
      exact ih alike
  | call request next ih =>
      simp only [record, oblivious request earlier alike.current?_eq]
      cases called : answer request world with
      | none => rfl
      | some reached =>
          obtain ⟨ended, middle, journal⟩ := reached
          have restored : middle.surroundings = world.surroundings :=
            restores request (Recorded.forget_eq_some called)
          rw [← restored] at alike
          have continued := ih ended alike
          simp only [Option.map_some, Recorded.movedOutcome, Recorded.within]
          rw [continued, Option.map_map, Option.map_map]
          rfl

theorem Program.oblivious_record (program : Program σ α) : (program.record answer []).Oblivious :=
  fun _ _ earlier same => Program.record_moved restores oblivious program earlier same

namespace Fragment

omit restores oblivious in
theorem oblivious_keep (contract : Contract) (source : Deferred σ) (implementation : Implementation σ) :
    (Recorded.silent (keep contract source implementation)).Oblivious := by
  intro world surroundings earlier same
  simp only [Recorded.silent, keep]
  split
  · rfl
  · rfl

theorem oblivious_recordMaterialize (contract : Contract) (source : Deferred σ) :
    (recordMaterialize answer contract source).Oblivious := by
  intro world surroundings earlier same
  have kept : (world.moved surroundings earlier).instances = world.instances := rfl
  rw [recordMaterialize, recordMaterialize, kept]
  cases world.instances.content? source.cell with
  | some implementation => rfl
  | none =>
      have made := (Program.oblivious_record restores oblivious source.factory).within
        (.make source.typeName · .done)
      have restored : (Recorded.within (.make source.typeName · .done)
          (source.factory.record answer [])).forget.Restores := by
        rw [Recorded.forget_within, Program.forget_record]
        exact Program.restores_run restores source.factory
      rw [World.moved_report]
      exact made.bind restored (oblivious_keep contract source) earlier same

theorem oblivious_recordImplementation (fragment : Fragment σ) :
    (fragment.recordImplementation answer).Oblivious := by
  rw [recordImplementation]
  split
  · exact Recorded.oblivious_stop _
  · exact Recorded.oblivious_stop _
  · rename_i source bound
    have made := oblivious_recordMaterialize restores oblivious fragment.contract source
    refine made.bind ?_ fun _ => Recorded.oblivious_stop _
    rw [forget_recordMaterialize]
    exact restores_materialize restores fragment.contract source

theorem oblivious_recordInvoke (fragment : Fragment σ) (interface : String) (method : Signature)
    (arguments : List Json) : (fragment.recordInvoke answer interface method arguments).Oblivious := by
  have found := oblivious_recordImplementation restores oblivious fragment
  refine found.bind ?_ ?_
  · rw [forget_recordImplementation]
    exact restores_implementation restores fragment
  · rintro (_ | implementation)
    · exact Recorded.oblivious_stop _
    · have works := Program.oblivious_record restores oblivious
        (implementation.invoke method arguments)
      exact works.within (.serve implementation.typeName method arguments · .done)

end Fragment

namespace Repository

omit restores oblivious in
theorem openInvocation_eq (repository : Repository σ) (method : Signature) (world : World σ) :
    repository.openInvocation method world =
      (if repository.exposesMetadata then some ⟨repository.interface, method, world.nextInvocation⟩
        else none,
        { world with
          nextInvocation := world.nextInvocation + if repository.exposesMetadata then 1 else 0 }) := by
  rcases repository.openInvocation_cases method world with ⟨hides, same⟩ | ⟨exposes, made⟩
  · rw [same, hides]
    rfl
  · rw [made, exposes]
    rfl

/-- The world in which the fragment of a call runs, as far as the fragment can tell: the stores show
what the call opens, whatever they hold outside, and nothing was reported before. -/
def interior (repository : Repository σ) (method : Signature) (before : World σ) : World σ :=
  { (repository.openInvocation method before).2 with
    surroundings := ⟨.ofInvocation? (repository.openInvocation method before).1, .outside⟩
    notices := [] }

/-- The end of a call, read off the end of its fragment: the surroundings are those from before, and
the notices follow those from before. -/
def closing (repository : Repository σ) (request : Call) (before : World σ) :
    Ending Json × World σ × Journal → Ending Json × World σ × Journal :=
  fun (ending, inner, inside) =>
    (ending,
      inner.moved before.surroundings
        (before.notices ++ request.style.notices repository.interface.name request.method.display),
      .call request before.surroundings.current (repository.openInvocation request.method before).1
        inside before.surroundings.current .done)

omit restores oblivious in
theorem interior_moved (repository : Repository σ) (method : Signature) (world : World σ)
    (surroundings : Surroundings) (earlier : List Notice) :
    repository.interior method (world.moved surroundings earlier) =
      repository.interior method world := by
  simp only [interior, openInvocation_eq, World.moved]

theorem record_of_target_ok (repository : Repository σ) (request : Call) {fragment : Fragment σ}
    (routed : repository.target request.method = .ok fragment) (before : World σ) :
    repository.record answer request before =
      (fragment.recordInvoke answer repository.interface.name request.method request.arguments
        (repository.interior request.method before)).map (repository.closing request before) := by
  let shown := (repository.openInvocation request.method before).1
  let entered := request.style.enter shown before.surroundings
  let earlier := before.notices ++
    request.style.notices repository.interface.name request.method.display
  have answers : (repository.interior request.method before).surroundings.current? =
      entered.current? := by
    rw [Style.current?_enter]
    exact Style.current?_enter .direct shown ⟨.unset, .outside⟩
  have runs := Fragment.oblivious_recordInvoke restores oblivious fragment repository.interface.name
    request.method request.arguments earlier answers
  have started : World.mk entered
        (before.nextInvocation + if repository.exposesMetadata then 1 else 0) before.instances earlier
        before.state =
      (repository.interior request.method before).moved entered earlier := by
    simp only [World.moved, interior, openInvocation_eq, List.append_nil]
  have opened : shown =
      if repository.exposesMetadata then
        some ⟨repository.interface, request.method, before.nextInvocation⟩
      else
        none := by
    simp only [shown, openInvocation_eq]
  rw [record]
  simp only [routed, openInvocation_eq, World.report, ← opened]
  change Option.map _ (fragment.recordInvoke answer _ _ _ (World.mk entered _ _ earlier _)) = _
  rw [started, runs, Option.map_map]
  apply Option.map_congr
  rintro ⟨ending, inner, inside⟩ _
  have left : request.style.leave before.surroundings entered = before.surroundings :=
    Style.leave_enter request.style shown before.surroundings
  simp only [Function.comp_apply, Recorded.movedOutcome, World.moved, closing, left]
  rfl

theorem oblivious_record (repository : Repository σ) (request : Call) :
    (repository.record answer request).Oblivious := by
  intro world surroundings earlier same
  have answered : surroundings.current = world.surroundings.current := by
    rw [Surroundings.current, Surroundings.current, same]
  cases routed : repository.target request.method with
  | error error =>
      rw [record_of_target_error routed, record_of_target_error routed, World.moved_report,
        Option.map_some]
      simp only [Recorded.movedOutcome, World.moved, answered]
  | ok fragment =>
      rw [record_of_target_ok restores oblivious repository request routed,
        record_of_target_ok restores oblivious repository request routed, interior_moved,
        Option.map_map]
      apply Option.map_congr
      rintro ⟨ending, inner, inside⟩ _
      simp only [Function.comp_apply, closing, Recorded.movedOutcome, openInvocation_eq, World.moved,
        answered, List.append_assoc]

end Repository

end Calls

/-- Calls do the same in all surroundings that show the same invocation, however deep they nest. -/
theorem Directory.oblivious_record (directory : Directory σ) (depth : Nat) (request : Call) :
    (directory.record depth request).Oblivious := by
  induction depth generalizing request with
  | zero => exact fun _ _ _ _ => rfl
  | succ depth ih => exact Repository.oblivious_record (directory.restores_record depth) ih _ request

/-- What a direct call and a call in the scope of the task have in common, if they differ in nothing
else. -/
structure Repository.SameCall (repository : Repository σ) (request : Style → Call) (before : World σ)
    (direct other : Ending Json × World σ × Journal) : Prop where
  /-- They end with the same result, the same error or the same abort. -/
  ending : direct.1 = other.1
  /-- Both put back the slot of the thread and the scope of the task. -/
  surroundings : direct.2.1.surroundings = before.surroundings ∧
    other.2.1.surroundings = before.surroundings
  /-- The same instances exist afterwards, in the same cells. -/
  instances : direct.2.1.instances = other.2.1.instances
  /-- The application is in the same state. -/
  state : direct.2.1.state = other.2.1.state
  /-- The same number of invocations was made. -/
  nextInvocation : direct.2.1.nextInvocation = other.2.1.nextInvocation
  /-- The same is reported in the same order, but for the notice of the direct call itself. -/
  notices : ∃ added,
    other.2.1.notices = before.notices ++ added ∧
      direct.2.1.notices =
        before.notices ++
          .calling repository.interface.name (request .direct).method.display :: added
  /-- The same happens inside: the same reads with the same answers, the same factories and methods,
  and the same nested calls. -/
  journal :
    (direct.2.2 =
        .refuse (request .direct) before.surroundings.current before.surroundings.current .done ∧
      other.2.2 =
        .refuse (request .scoped) before.surroundings.current before.surroundings.current .done) ∨
    ∃ opened inside,
      direct.2.2 =
          .call (request .direct) before.surroundings.current opened inside
            before.surroundings.current .done ∧
        other.2.2 =
          .call (request .scoped) before.surroundings.current opened inside
            before.surroundings.current .done

namespace Repository

theorem sameCall_refused (repository : Repository σ) (name : String) (method : Signature)
    (arguments : List Json) (before : World σ) (error : Error) :
    let refused := fun style : Style =>
      ((Ending.failure error : Ending Json),
        before.report (style.notices repository.interface.name method.display),
        Journal.refuse ⟨name, style, method, arguments⟩ before.surroundings.current
          before.surroundings.current .done)
    repository.SameCall (fun style => ⟨name, style, method, arguments⟩) before (refused .direct)
      (refused .scoped) :=
  ⟨rfl, ⟨rfl, rfl⟩, rfl, rfl, rfl, ⟨[], rfl, rfl⟩, .inl ⟨rfl, rfl⟩⟩

theorem sameCall_closing (repository : Repository σ) (name : String) (method : Signature)
    (arguments : List Json) (before : World σ) (ran : Ending Json × World σ × Journal) :
    repository.SameCall (fun style => ⟨name, style, method, arguments⟩) before
      (repository.closing ⟨name, .direct, method, arguments⟩ before ran)
      (repository.closing ⟨name, .scoped, method, arguments⟩ before ran) := by
  obtain ⟨ending, inner, inside⟩ := ran
  have silent : before.notices ++ [] ++ inner.notices = before.notices ++ inner.notices := by simp
  have listed : before.notices ++ [.calling repository.interface.name method.display] ++
      inner.notices = before.notices ++
        .calling repository.interface.name method.display :: inner.notices := by simp
  exact ⟨rfl, ⟨rfl, rfl⟩, rfl, rfl, rfl, ⟨inner.notices, silent, listed⟩,
    .inr ⟨(repository.openInvocation method before).1, inside, rfl, rfl⟩⟩

/-- A direct call and a scoped call of a method end together or not at all, and then they are the same
call: what happens inside, how it ends and what it leaves behind does not depend on the style, whatever
the surroundings are in which the call is made. -/
theorem styles_interchangeable (repository : Repository σ) (directory : Directory σ)
    (depth : Nat) (name : String) (method : Signature) (arguments : List Json) (before : World σ) :
    let request := fun style : Style => Call.mk name style method arguments
    let outcome := fun style => repository.record (directory.record depth) (request style) before
    let plain := fun result : Ending Json × World σ × Journal => (result.1, result.2.1)
    repository.invoke (directory.answer depth) method arguments before =
        (outcome .direct).map plain ∧
      repository.invokeScoped (directory.answer depth) method arguments before =
        (outcome .scoped).map plain ∧
      (outcome .direct).isSome = (outcome .scoped).isSome ∧
      ∀ direct other, outcome .direct = some direct → outcome .scoped = some other →
        repository.SameCall request before direct other := by
  intro request outcome plain
  have performed : ∀ style,
      repository.perform (directory.answer depth) style method arguments before =
        (outcome style).map plain := by
    intro style
    have forgotten := congrFun (repository.forget_record (directory.record depth) (request style)) before
    simp only [Directory.forget_record] at forgotten
    exact forgotten.symm
  refine ⟨performed .direct, performed .scoped, ?_⟩
  cases routed : repository.target method with
  | error error =>
      have refused : ∀ style, outcome style = some
          (.failure error,
            before.report (style.notices repository.interface.name method.display),
            .refuse (request style) before.surroundings.current before.surroundings.current .done) :=
        fun style => record_of_target_error routed (directory.record depth) before
      rw [refused .direct, refused .scoped]
      refine ⟨rfl, ?_⟩
      intro direct other first second
      rw [← Option.some.inj first, ← Option.some.inj second]
      exact repository.sameCall_refused name method arguments before error
  | ok fragment =>
      have restores : ∀ request, (directory.record depth request).forget.Restores := by
        intro request
        rw [Directory.forget_record]
        exact Directory.restores_answer directory depth request
      have reached : ∀ style, outcome style =
          (fragment.recordInvoke (directory.record depth) repository.interface.name method arguments
            (repository.interior method before)).map (repository.closing (request style) before) :=
        fun style => record_of_target_ok restores (directory.oblivious_record depth) repository
          (request style) routed before
      rw [reached .direct, reached .scoped, Option.isSome_map, Option.isSome_map]
      refine ⟨rfl, ?_⟩
      intro direct other first second
      obtain ⟨ran, inner, rfl⟩ := Option.map_eq_some_iff.mp first
      obtain ⟨also, same, rfl⟩ := Option.map_eq_some_iff.mp second
      obtain rfl : ran = also := Option.some.inj (inner.symm.trans same)
      exact repository.sameCall_closing name method arguments before ran

end Repository
end FragmentAssembly
