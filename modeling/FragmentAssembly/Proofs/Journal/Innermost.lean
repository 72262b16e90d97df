import FragmentAssembly.Proofs.Invocation.Restoration
import FragmentAssembly.Proofs.Journal.Depth
import FragmentAssembly.Proofs.Repository.Routing

/-!
# The innermost call decides

The invocation in progress is the one of the innermost call, or none if the repository of that call does
not show its invocations. No call around it, and nothing in the surroundings at the start, has a say,
and the end of a call brings back the answer from before it. This holds as long as the application takes
no guards of its own.
-/

namespace FragmentAssembly

variable {σ α β : Type}

/-- A result is an allowed one. -/
def Ending.Satisfies (allowed : α → Prop) : Ending α → Prop
  | .value result => allowed result
  | .failure _ => True
  | .abort _ => True

/-- A program takes no guards, and its result is an allowed one. -/
def Program.Unguarded (allowed : α → Prop) : Program σ α → Prop
  | .finish ending => ending.Satisfies allowed
  | .current next => ∀ invocation, (next invocation).Unguarded allowed
  | .prepare _ _ next => ∀ invocation, (next invocation).Unguarded allowed
  | .enter _ _ => False
  | .suppress _ => False
  | .release next => next.Unguarded allowed
  | .read next => ∀ state, (next state).Unguarded allowed
  | .write _ next => next.Unguarded allowed
  | .call _ next => ∀ ending, (next ending).Unguarded allowed

/-- No method takes guards. -/
def Implementation.Unguarded (implementation : Implementation σ) : Prop :=
  ∀ method arguments, (implementation.invoke method arguments).Unguarded fun _ => True

/-- Neither the factory nor the instances that it makes take guards. -/
def Binding.Unguarded : Binding σ → Prop
  | .eager implementation => implementation.Unguarded
  | .deferred source => source.factory.Unguarded Implementation.Unguarded

/-- The implementations of all repositories take no guards. -/
def Directory.Unguarded (directory : Directory σ) : Prop :=
  ∀ name, ∀ fragment ∈ (directory name).composition.slots, ∀ binding,
    fragment.binding = some binding → binding.Unguarded

/-- The instances that exist take no guards. -/
def World.Unguarded (world : World σ) : Prop :=
  ∀ cell implementation, world.instances.content? cell = some implementation →
    implementation.Unguarded

/-- What a call may open: an invocation of its method, if the repository shows invocations, and none
otherwise. -/
def Repository.Opens (repository : Repository σ) (method : Signature) (opened : Option Invocation) :
    Prop :=
  if repository.exposesMetadata then
    ∃ id, opened = some ⟨repository.interface, method, id⟩
  else
    opened = none

namespace Journal

/-- Every answer is what the innermost call opened; outside of all calls it is the one that is given. -/
def FollowsInnermost (directory : Directory σ) : Option Invocation → Journal → Prop
  | _, .done => True
  | shown, .read answer rest =>
      answer = Invocation.reply shown ∧ rest.FollowsInnermost directory shown
  | shown, .make _ inside rest =>
      inside.FollowsInnermost directory shown ∧ rest.FollowsInnermost directory shown
  | shown, .serve _ _ _ inside rest =>
      inside.FollowsInnermost directory shown ∧ rest.FollowsInnermost directory shown
  | shown, .refuse _ before after rest =>
      before = Invocation.reply shown ∧ after = Invocation.reply shown ∧
        rest.FollowsInnermost directory shown
  | shown, .call request before opened inside after rest =>
      before = Invocation.reply shown ∧
        (directory request.repository).Opens request.method opened ∧
        inside.FollowsInnermost directory opened ∧
        after = Invocation.reply shown ∧ rest.FollowsInnermost directory shown

theorem followsInnermost_append {directory : Directory σ} {shown : Option Invocation}
    {journal later : Journal} (first : journal.FollowsInnermost directory shown)
    (second : later.FollowsInnermost directory shown) :
    (journal.append later).FollowsInnermost directory shown := by
  induction journal with
  | done => exact second
  | read answer rest ih => exact ⟨first.1, ih first.2⟩
  | make typeName inside rest _ ih => exact ⟨first.1, ih first.2⟩
  | serve typeName method arguments inside rest _ ih => exact ⟨first.1, ih first.2⟩
  | refuse request before after rest ih =>
      obtain ⟨answered, restored, others⟩ := first
      exact ⟨answered, restored, ih others⟩
  | call request before opened inside after rest _ ih =>
      obtain ⟨answered, opens, within, restored, others⟩ := first
      exact ⟨answered, opens, within, restored, ih others⟩

end Journal

namespace Recorded

/-- What is guaranteed about a run from a world without guards. -/
structure Outcome (directory : Directory σ) (allowed : α → Prop) (before : World σ) (ending : Ending α)
    (after : World σ) (journal : Journal) : Prop where
  satisfies : ending.Satisfies allowed
  unguarded : after.Unguarded
  follows : journal.FollowsInnermost directory before.surroundings.current?
  numbered : journal.Numbered before.nextInvocation after.nextInvocation

/-- However the run ends, its outcome is as guaranteed. -/
def Follows (directory : Directory σ) (allowed : α → Prop) (recorded : Recorded σ α) : Prop :=
  ∀ ⦃before ending after journal⦄, before.Unguarded →
    recorded before = some (ending, after, journal) →
      Outcome directory allowed before ending after journal

variable {directory : Directory σ} {allowed : α → Prop}

theorem Outcome.of_done {before after : World σ} {ending : Ending α}
    (satisfies : ending.Satisfies allowed) (unguarded : after.Unguarded)
    (same : before.nextInvocation = after.nextInvocation) :
    Outcome directory allowed before ending after .done :=
  ⟨satisfies, unguarded, trivial, Journal.numbered_of_ids_eq_nil (Nat.le_of_eq same) rfl⟩

theorem follows_stop {ending : Ending α} (satisfies : ending.Satisfies allowed) :
    (silent (.stop ending) : Recorded σ α).Follows directory allowed := by
  intro before ended after journal unguarded ran
  cases ran
  exact .of_done satisfies unguarded rfl

/-- An entry around a run that opens no invocation changes nothing about who is innermost. -/
theorem Follows.within {entry : Journal → Journal} {recorded : Recorded σ α}
    (follows : recorded.Follows directory allowed)
    (transparent : ∀ inside shown, inside.FollowsInnermost directory shown →
      (entry inside).FollowsInnermost directory shown)
    (same : ∀ inside, (entry inside).ids = inside.ids) :
    (within entry recorded).Follows directory allowed := by
  intro before ending after journal unguarded ran
  obtain ⟨⟨ended, reached, inside⟩, inner, equal⟩ := Option.map_eq_some_iff.mp ran
  cases equal
  have outcome := follows unguarded inner
  exact ⟨outcome.satisfies, outcome.unguarded, transparent _ _ outcome.follows,
    outcome.numbered.of_ids_eq (same inside)⟩

/-- The second stage starts in the surroundings of the first one, because that one restored them. -/
theorem Follows.bind {allowedThen : β → Prop} {first : Recorded σ α} {second : α → Recorded σ β}
    (restores : first.forget.Restores) (follows : first.Follows directory allowed)
    (continues : ∀ result, allowed result → (second result).Follows directory allowedThen) :
    (first.bind second).Follows directory allowedThen := by
  intro before ending after journal unguarded ran
  rcases bind_cases ran with ⟨result, middle, opening, rest, began, went, rfl⟩ | ⟨error, began, rfl⟩ |
    ⟨message, began, rfl⟩
  · have outcome := follows unguarded began
    have behind := continues result outcome.satisfies outcome.unguarded went
    have followed := behind.follows
    rw [restores (forget_eq_some began)] at followed
    exact ⟨behind.satisfies, behind.unguarded,
      Journal.followsInnermost_append outcome.follows followed,
      outcome.numbered.append behind.numbered⟩
  · have outcome := follows unguarded began
    exact ⟨trivial, outcome.unguarded, outcome.follows, outcome.numbered⟩
  · have outcome := follows unguarded began
    exact ⟨trivial, outcome.unguarded, outcome.follows, outcome.numbered⟩

end Recorded

/-- What happens to a world when a call opens an invocation or none. -/
structure Repository.Opening (repository : Repository σ) (method : Signature) (before : World σ)
    (shown : Option Invocation) (opened : World σ) : Prop where
  opens : repository.Opens method shown
  surroundings : opened.surroundings = before.surroundings
  instances : opened.instances = before.instances
  numbered : ∀ {high : Nat} {inside journal : Journal},
    inside.Numbered opened.nextInvocation high →
      journal.ids = (shown.map Invocation.id).toList ++ inside.ids →
        journal.Numbered before.nextInvocation high

theorem Repository.opening_openInvocation (repository : Repository σ) (method : Signature)
    (before : World σ) :
    repository.Opening method before (repository.openInvocation method before).1
      (repository.openInvocation method before).2 := by
  rcases repository.openInvocation_cases method before with ⟨hides, same⟩ | ⟨exposes, made⟩
  · rw [same]
    refine ⟨?_, rfl, rfl, ?_⟩
    · rw [Opens, hides]
      rfl
    · intro high inside journal numbered ids
      exact numbered.of_ids_eq ids
  · rw [made]
    refine ⟨?_, rfl, rfl, ?_⟩
    · rw [Opens, exposes]
      exact ⟨before.nextInvocation, rfl⟩
    · intro high inside journal numbered ids
      exact numbered.cons ids

section Calls

variable {directory : Directory σ} {answer : Call → Recorded σ Json}
  (restores : ∀ request, (answer request).forget.Restores)
  (follows : ∀ request, (answer request).Follows directory fun _ => True)

include restores follows

/-- A program without guards reads what its surroundings show, before and after each call. -/
theorem Program.follows_record {allowed : α → Prop} (program : Program σ α)
    (plain : program.Unguarded allowed) : (program.record answer []).Follows directory allowed := by
  induction program with
  | finish ending =>
      intro before ended after journal unguarded ran
      cases ran
      exact .of_done plain unguarded rfl
  | current next ih =>
      intro before ending after journal unguarded ran
      obtain ⟨⟨ended, reached, rest⟩, went, equal⟩ := Option.map_eq_some_iff.mp ran
      cases equal
      have outcome := ih _ (plain _) unguarded went
      exact ⟨outcome.satisfies, outcome.unguarded, ⟨rfl, outcome.follows⟩,
        outcome.numbered.of_ids_eq rfl⟩
  | prepare interface method next ih =>
      intro before ending after journal unguarded ran
      have made : (before.prepare interface method).2.Unguarded := unguarded
      have outcome := ih _ (plain _) made ran
      exact ⟨outcome.satisfies, outcome.unguarded, outcome.follows, outcome.numbered.of_succ⟩
  | enter invocation next ih => exact plain.elim
  | suppress next ih => exact plain.elim
  | release next ih => exact ih plain
  | read next ih =>
      intro before ending after journal unguarded ran
      exact ih _ (plain _) unguarded ran
  | write state next ih =>
      intro before ending after journal unguarded ran
      have written : World.Unguarded { before with state } := unguarded
      have outcome := ih plain written ran
      exact ⟨outcome.satisfies, outcome.unguarded, outcome.follows, outcome.numbered⟩
  | call request next ih =>
      intro before ending after journal unguarded ran
      obtain ⟨answered, middle, entry, rest, called, went, rfl⟩ := record_call_cases ran
      have inner := follows request unguarded called
      have outcome := ih _ (plain _) inner.unguarded went
      have followed := outcome.follows
      rw [restores request (Recorded.forget_eq_some called)] at followed
      exact ⟨outcome.satisfies, outcome.unguarded,
        Journal.followsInnermost_append inner.follows followed,
        inner.numbered.append outcome.numbered⟩

namespace Fragment

omit restores follows in
theorem follows_keep (contract : Contract) (source : Deferred σ) (implementation : Implementation σ)
    (plain : implementation.Unguarded) :
    (Recorded.silent (keep contract source implementation)).Follows directory
      Implementation.Unguarded := by
  intro before ending after journal unguarded ran
  obtain ⟨⟨ended, reached⟩, kept, equal⟩ := Option.map_eq_some_iff.mp ran
  cases equal
  rw [keep] at kept
  split at kept
  · cases kept
    refine .of_done plain ?_ rfl
    intro cell content found
    simp only [World.fill, Cells.fill] at found
    split at found
    · cases found
      exact plain
    · exact unguarded cell content found
  · cases kept
    exact .of_done trivial unguarded rfl

theorem follows_recordMaterialize (contract : Contract) (source : Deferred σ)
    (plain : source.factory.Unguarded Implementation.Unguarded) :
    (recordMaterialize answer contract source).Follows directory Implementation.Unguarded := by
  intro before ending after journal unguarded ran
  rw [recordMaterialize] at ran
  cases kept : before.instances.content? source.cell with
  | some implementation =>
      rw [kept] at ran
      cases ran
      exact .of_done (unguarded _ _ kept) unguarded rfl
  | none =>
      rw [kept] at ran
      have made : (Recorded.within (.make source.typeName · .done)
          (source.factory.record answer [])).Follows directory Implementation.Unguarded :=
        (Program.follows_record restores follows source.factory plain).within
          (fun _ _ inside => ⟨inside, trivial⟩) (fun _ => List.append_nil _)
      have restored : (Recorded.within (.make source.typeName · .done)
          (source.factory.record answer [])).forget.Restores := by
        rw [Recorded.forget_within, Program.forget_record]
        exact Program.restores_run restores source.factory
      have reported : (before.report [.materializing source.typeName contract.name]).Unguarded :=
        unguarded
      have outcome := made.bind restored (follows_keep contract source) reported ran
      exact ⟨outcome.satisfies, outcome.unguarded, outcome.follows, outcome.numbered⟩

theorem follows_recordImplementation (fragment : Fragment σ)
    (plain : ∀ binding, fragment.binding = some binding → binding.Unguarded) :
    (fragment.recordImplementation answer).Follows directory fun found =>
      ∀ implementation, found = some implementation → implementation.Unguarded := by
  rw [recordImplementation]
  cases bound : fragment.binding with
  | none =>
      refine Recorded.follows_stop ?_
      rintro _ ⟨⟩
  | some binding =>
      cases binding with
      | eager implementation =>
          refine Recorded.follows_stop ?_
          rintro _ ⟨⟩
          exact plain _ bound
      | deferred source =>
          have made := follows_recordMaterialize restores follows fragment.contract source
            (plain _ bound)
          refine made.bind ?_ ?_
          · rw [forget_recordMaterialize]
            exact restores_materialize restores fragment.contract source
          · intro implementation unguarded
            refine Recorded.follows_stop ?_
            rintro _ ⟨⟩
            exact unguarded

theorem follows_recordInvoke (fragment : Fragment σ) (interface : String) (method : Signature)
    (arguments : List Json)
    (plain : ∀ binding, fragment.binding = some binding → binding.Unguarded) :
    (fragment.recordInvoke answer interface method arguments).Follows directory fun _ => True := by
  refine (follows_recordImplementation restores follows fragment plain).bind ?_ ?_
  · rw [forget_recordImplementation]
    exact restores_implementation restores fragment
  · rintro (_ | implementation) unguarded
    · exact Recorded.follows_stop trivial
    · have served := Program.follows_record restores follows
        (implementation.invoke method arguments) (unguarded implementation rfl method arguments)
      rw [recordServe]
      exact served.within (fun _ _ inside => ⟨inside, trivial⟩) (fun _ => List.append_nil _)

end Fragment

/-- A call shows what it opens to the fragment that it reaches, and to nothing else. -/
theorem Repository.follows_record (repository : Repository σ) (request : Call)
    (named : directory request.repository = repository)
    (plain : ∀ fragment ∈ repository.composition.slots, ∀ binding,
      fragment.binding = some binding → binding.Unguarded) :
    (repository.record answer request).Follows directory fun _ => True := by
  intro before ending after journal unguarded ran
  rw [record] at ran
  cases routed : repository.target request.method with
  | error error =>
      simp only [routed] at ran
      cases ran
      exact ⟨trivial, unguarded, ⟨rfl, rfl, trivial⟩,
        Journal.numbered_of_ids_eq_nil (Nat.le_refl _) rfl⟩
  | ok fragment =>
      simp only [routed] at ran
      have served := Fragment.follows_recordInvoke restores follows fragment repository.interface.name
        request.method request.arguments (plain fragment (mem_slots_of_target routed))
      have restored : (fragment.recordInvoke answer repository.interface.name request.method
          request.arguments).forget.Restores := by
        rw [Fragment.forget_recordInvoke]
        exact Fragment.restores_invoke restores fragment _ _ _
      have opening := repository.opening_openInvocation request.method
        (before.report (request.style.notices repository.interface.name request.method.display))
      generalize repository.openInvocation request.method _ = result at opening ran
      obtain ⟨shown, opened⟩ := result
      obtain ⟨⟨ended, inner, inside⟩, went, equal⟩ := Option.map_eq_some_iff.mp ran
      cases equal
      have entered : World.Unguarded
          { opened with surroundings := request.style.enter shown opened.surroundings } := by
        rw [World.Unguarded, opening.instances]
        exact unguarded
      have outcome := served entered went
      have followed := outcome.follows
      rw [Style.current?_enter] at followed
      have back : request.style.leave opened.surroundings inner.surroundings = before.surroundings := by
        rw [restored (Recorded.forget_eq_some went), Style.leave_enter]
        exact opening.surroundings
      refine ⟨outcome.satisfies, outcome.unguarded, ⟨rfl, ?_, followed, ?_, trivial⟩, ?_⟩
      · rw [named]
        exact opening.opens
      · rw [back]
        rfl
      · exact opening.numbered outcome.numbered (by simp [Journal.ids])

end Calls

/-- Calls of repositories that take no guards show what the innermost call opened, however deep they
nest. -/
theorem Directory.follows_record (directory : Directory σ) (plain : directory.Unguarded) (depth : Nat)
    (request : Call) : (directory.record depth request).Follows directory fun _ => True := by
  induction depth generalizing request with
  | zero =>
      intro before ending after journal unguarded ran
      simp [record] at ran
  | succ depth ih =>
      exact Repository.follows_record (directory.restores_record depth) ih _ request rfl
        (plain request.repository)

/-- A call that ends has a journal in which every read is answered by the innermost call: with its own
invocation if its repository shows invocations, and with an error otherwise. The invocations have
distinct numbers, none of which was taken before, and after each call, as after the whole run, the
answers are those from before it. The bound on the depth has no part in it. -/
theorem Directory.innermost_call_decides (directory : Directory σ) (plain : directory.Unguarded)
    (depth : Nat) (request : Call) {before after : World σ} {ending : Ending Json}
    (unguarded : before.Unguarded)
    (ends : directory.answer depth request before = some (ending, after)) :
    ∃ journal,
      (∀ larger, depth ≤ larger →
          directory.record larger request before = some (ending, after, journal)) ∧
        journal.FollowsInnermost directory before.surroundings.current? ∧
        journal.ids.Pairwise (· < ·) ∧
        (∀ id ∈ journal.ids, before.nextInvocation ≤ id ∧ id < after.nextInvocation) ∧
        after.surroundings = before.surroundings := by
  have restored := restores_answer directory depth request ends
  rw [← forget_record] at ends
  obtain ⟨journal, ran⟩ := Recorded.exists_journal ends
  have outcome := follows_record directory plain depth request unguarded ran
  obtain ⟨-, increasing, bounded⟩ := outcome.numbered
  refine ⟨journal, ?_, outcome.follows, increasing, bounded, restored⟩
  intro larger le
  exact directory.extendedBy_record_of_le le request ran

/-- A fragment that answers one method, with an instance that is made on first use. Both the factory and
the method ask for the invocation in progress. -/
def Fragment.asking (cell : Nat) (method : Signature) (program : Program σ Json) : Fragment σ :=
  .deferred ((Contract.named "Asking").withMethods [method])
    { typeName := "AskingImpl"
      factory := .current fun _ => .finish (.value
        { typeName := "AskingImpl"
          supports := fun _ => true
          satisfies := fun _ => true
          invoke := fun _ _ => .current fun _ => program })
      cell }

/-- A repository that shows its calls and that passes them on, once in either style, to one that hides
its calls and gives up. -/
def Directory.relay (method : Signature) : Directory Unit := fun name =>
  if name = "front" then
    .ofComposition (.named "front" "" "")
      (.ofList [.asking 0 method
        (.call ⟨"back", .scoped, method, []⟩ fun _ => .current fun _ =>
          .call ⟨"back", .direct, method, []⟩ fun _ => .current fun _ => .finish (.value .null))])
      true
  else
    .ofComposition (.named "back" "" "") (.ofList [.asking 1 method (.abort "")]) false

theorem Directory.unguarded_relay (method : Signature) : (Directory.relay method).Unguarded := by
  intro name fragment member binding bound
  rw [relay] at member
  split at member
  · obtain rfl : fragment = _ := List.mem_singleton.mp member
    cases bound
    exact fun _ _ _ _ _ _ _ _ => trivial
  · obtain rfl : fragment = _ := List.mem_singleton.mp member
    cases bound
    exact fun _ _ _ _ => trivial

theorem Directory.innermost_call_decides_relay :
    let directory := Directory.relay ⟨"ask", []⟩
    let before : World Unit := { World.initial () with surroundings := ⟨.hidden, .outside⟩ }
    directory.Unguarded ∧ before.Unguarded ∧
      ∃ ending after journal,
        directory.answer 2 ⟨"front", .direct, ⟨"ask", []⟩, []⟩ before = some (ending, after) ∧
          (∀ larger, 2 ≤ larger →
            directory.record larger ⟨"front", .direct, ⟨"ask", []⟩, []⟩ before =
              some (ending, after, journal)) ∧
          journal.FollowsInnermost directory before.surroundings.current? ∧
          journal.ids.Pairwise (· < ·) ∧
          (∀ id ∈ journal.ids, before.nextInvocation ≤ id ∧ id < after.nextInvocation) ∧
          after.surroundings = before.surroundings := by
  intro directory before
  have plain : directory.Unguarded := unguarded_relay ⟨"ask", []⟩
  have unguarded : before.Unguarded := nofun
  have finished : (directory.answer 2 ⟨"front", .direct, ⟨"ask", []⟩, []⟩ before).isSome = true := by
    decide +kernel
  obtain ⟨⟨ending, after⟩, ends⟩ := Option.isSome_iff_exists.mp finished
  obtain ⟨journal, facts⟩ := innermost_call_decides directory plain 2 _ unguarded ends
  exact ⟨plain, unguarded, ending, after, journal, ends, facts⟩

end FragmentAssembly
