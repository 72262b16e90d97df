import FragmentAssembly.Proofs.Fragment.Uses
import FragmentAssembly.Proofs.Repository.Routing
import FragmentAssembly.Proofs.Resolution.Selection

/-!
# Instances are made once

The instance of a fragment is made on first use. The module follows a fragment through any number of uses,
through whichever copies and repositories: the factory runs in each use until an instance satisfies the
contract, and from then on every use works on that instance.
-/

namespace FragmentAssembly

variable {σ : Type}

/-- A use, and what happens elsewhere before it. -/
structure Turn (σ : Type) where
  /-- What happens before. -/
  elsewhere : World σ → World σ
  /-- The use. -/
  use : Use σ

/-- What comes of a use. -/
structure Use.Outcome (σ : Type) where
  /-- The use. -/
  use : Use σ
  /-- The world before it. -/
  before : World σ
  /-- How it ends. -/
  ending : Ending (Result σ)
  /-- What happens in it. -/
  events : List (Event σ)
  /-- The world after it. -/
  after : World σ

/-- Uses one after the other. -/
def Turn.watchAll (directory : Directory σ) (depth : Nat) :
    List (Turn σ) → World σ → Option (List (Use.Outcome σ))
  | [], _ => some []
  | turn :: others, world =>
      let before := turn.elsewhere world
      match turn.use.watch directory depth before with
      | none => none
      | some (ending, after, events) =>
          (watchAll directory depth others after).map
            (⟨turn.use, before, ending, events, after⟩ :: ·)

/-- The turn uses a copy of the fragment, and elsewhere nothing happens to its cell. -/
structure Turn.Uses (turn : Turn σ) (directory : Directory σ) (fragment : Fragment σ) (cell : Nat) :
    Prop where
  /-- The use reaches a copy. -/
  reaches : turn.use.Reaches directory fragment
  /-- Elsewhere the cell stays as it is. -/
  elsewhere : ∀ world, (turn.elsewhere world).instances.content? cell = world.instances.content? cell

/-- The factory does not use the cell that it runs for. -/
def Deferred.Apart (source : Deferred σ) (answer : Call → Watched σ Json) : Prop :=
  ∀ ⦃world made after events⦄, world.instances.content? source.cell = none →
    source.factory.watch answer [] world = some (made, after, events) →
      Event.makings source.cell events = []

/-- Whether all copies of a fragment have the instance in a world. -/
def Deferred.IsMaterialized (source : Deferred σ) (world : World σ) (materialized : Bool) : Prop :=
  ∀ copy : Fragment σ, copy.binding = some (.deferred source) →
    world.isMaterialized copy = materialized

namespace Use.Outcome

/-- The factory runs once in the use, before anything happens to the instance that it makes. -/
def RunsFactory (outcome : Outcome σ) (directory : Directory σ) (depth : Nat) (source : Deferred σ)
    (made : Ending (Implementation σ)) (middle : World σ) (later : List (Event σ)) : Prop :=
  Event.makings source.cell outcome.events = [made] ∧
    ∃ opened inside, opened.Alike outcome.before ∧
      source.factory.watch (directory.watch depth) [] opened = some (made, middle, inside) ∧
      outcome.events = inside ++ .made source.cell made :: later

/-- From some world on, the use is what it does with the instance. -/
def WorksWith (outcome : Outcome σ) (directory : Directory σ) (depth : Nat) (fragment : Fragment σ)
    (implementation : Implementation σ) (entered : World σ) (later : List (Event σ)) : Prop :=
  ∃ left, outcome.use.work directory depth fragment implementation entered =
      some (outcome.ending, left, later) ∧ outcome.after.Alike left

/-- The factory runs without success; the use ends accordingly and the fragment is as it was. -/
structure Fails (outcome : Outcome σ) (directory : Directory σ) (depth : Nat) (fragment : Fragment σ)
    (source : Deferred σ) : Prop where
  /-- The only run of the factory is the reason for the ending. -/
  rejected : ∃ made middle, outcome.RunsFactory directory depth source made middle [] ∧
    Fragment.Rejected fragment.contract made outcome.ending ∧ outcome.after.Alike middle
  /-- No copy has an instance before. -/
  before : source.IsMaterialized outcome.before false
  /-- No copy has an instance afterwards. -/
  after : source.IsMaterialized outcome.after false

/-- The factory makes the instance, and the use works with it. -/
structure Makes (outcome : Outcome σ) (directory : Directory σ) (depth : Nat) (fragment : Fragment σ)
    (source : Deferred σ) (implementation : Implementation σ) : Prop where
  /-- The instance satisfies the contract. -/
  satisfies : implementation.satisfies fragment.contract = true
  /-- The only run of the factory gives the instance that the use works with. -/
  works : ∃ middle later,
    outcome.RunsFactory directory depth source (.value implementation) middle later ∧
      outcome.WorksWith directory depth fragment implementation
        (middle.fill source.cell implementation) later
  /-- No copy has an instance before. -/
  before : source.IsMaterialized outcome.before false
  /-- All copies have the instance afterwards. -/
  after : source.IsMaterialized outcome.after true

/-- The use works with the instance that exists. -/
structure Reuses (outcome : Outcome σ) (directory : Directory σ) (depth : Nat) (fragment : Fragment σ)
    (source : Deferred σ) (implementation : Implementation σ) : Prop where
  /-- The factory does not run. -/
  makings : Event.makings source.cell outcome.events = []
  /-- The use works with the instance from its start. -/
  works : ∃ entered, entered.Alike outcome.before ∧
    outcome.WorksWith directory depth fragment implementation entered outcome.events
  /-- All copies have the instance before. -/
  before : source.IsMaterialized outcome.before true
  /-- All copies have the instance afterwards. -/
  after : source.IsMaterialized outcome.after true

end Use.Outcome

theorem Deferred.isMaterialized_of_content {source : Deferred σ} {world : World σ}
    {content : Option (Implementation σ)} (same : world.instances.content? source.cell = content) :
    source.IsMaterialized world content.isSome := by
  intro copy bound
  rw [World.isMaterialized, bound, ← same]

section Sequences

variable {directory : Directory σ} {depth : Nat} {fragment : Fragment σ} {source : Deferred σ}
  (bound : fragment.binding = some (.deferred source))

include bound

theorem Use.reuses {outcome : Use.Outcome σ} (reaches : outcome.use.Reaches directory fragment)
    (ran : outcome.use.watch directory depth outcome.before =
      some (outcome.ending, outcome.after, outcome.events))
    {implementation : Implementation σ}
    (full : outcome.before.instances.content? source.cell = some implementation) :
    outcome.Reuses directory depth fragment source implementation ∧
      outcome.after.instances.content? source.cell = some implementation := by
  obtain ⟨use, world, ending, events, after⟩ := outcome
  obtain ⟨entered, left, before, behind, inner⟩ := Use.watch_inner bound reaches ran
  rw [← before.instances] at full
  have works : use.work directory depth fragment implementation entered =
      some (ending, left, events) := by
    rw [Watched.bind, Fragment.watchMaterialize_of_full full] at inner
    obtain ⟨later, worked, rfl⟩ := Watched.ends_of_following inner
    exact worked
  obtain ⟨none, kept⟩ := Use.settled_work bound full works
  rw [← behind.instances] at kept
  rw [before.instances] at full
  exact ⟨⟨none, ⟨entered, before, left, works, behind⟩, source.isMaterialized_of_content full,
    source.isMaterialized_of_content kept⟩, kept⟩

/-- A use that finds no instance runs the factory once. It fails and leaves the cell empty, or it keeps
the instance and works with it. -/
theorem Use.attempts (apart : source.Apart (directory.watch depth)) {outcome : Use.Outcome σ}
    (reaches : outcome.use.Reaches directory fragment)
    (ran : outcome.use.watch directory depth outcome.before =
      some (outcome.ending, outcome.after, outcome.events))
    (empty : outcome.before.instances.content? source.cell = none) :
    (outcome.Fails directory depth fragment source ∧
        outcome.after.instances.content? source.cell = none) ∨
      ∃ implementation, outcome.Makes directory depth fragment source implementation ∧
        outcome.after.instances.content? source.cell = some implementation := by
  obtain ⟨use, world, ending, events, after⟩ := outcome
  obtain ⟨entered, left, before, behind, inner⟩ := Use.watch_inner bound reaches ran
  have law := Cell.law_settled directory source.cell
  have unmade := source.isMaterialized_of_content empty
  rw [← before.instances] at empty
  obtain ⟨made, middle, inside, run, outcome⟩ := Fragment.bind_watchMaterialize_of_empty empty inner
  have alone : Event.makings source.cell inside = [] := by
    refine apart ?_ run
    exact empty
  have settled := Program.obeys_watch law (directory.obeys_watch law depth) source.factory [] run
  rcases outcome with
    ⟨rejected, rfl, rfl⟩ | ⟨implementation, later, rfl, satisfies, works, rfl⟩
  · have kept : after.instances.content? source.cell = none := by
      rw [behind.instances, settled.unchanged alone]
      exact empty
    have once : Event.makings source.cell (inside ++ [.made source.cell made]) = [made] := by
      rw [Event.makings_append, alone, Event.makings_made]
      rfl
    refine .inl ⟨⟨⟨made, left, ⟨once, _, inside, ?_, run, rfl⟩, rejected, behind⟩, unmade,
      source.isMaterialized_of_content kept⟩, kept⟩
    exact ⟨before.instances, before.state⟩
  · have full : (middle.fill source.cell implementation).instances.content? source.cell =
        some implementation := if_pos rfl
    obtain ⟨none, kept⟩ := Use.settled_work bound full works
    rw [← behind.instances] at kept
    have once : Event.makings source.cell
        (inside ++ .made source.cell (.value implementation) :: later) = [.value implementation] := by
      rw [Event.makings_append, alone, Event.makings_made, none]
      rfl
    refine .inr ⟨implementation, ⟨satisfies, ⟨middle, later, ⟨once, _, inside, ?_, run, rfl⟩, left, works,
      behind⟩, unmade, source.isMaterialized_of_content kept⟩, kept⟩
    exact ⟨before.instances, before.state⟩

omit bound in
theorem Turn.watchAll_cons {turn : Turn σ} {others : List (Turn σ)} {world : World σ}
    {outcomes : List (Use.Outcome σ)}
    (ran : watchAll directory depth (turn :: others) world = some outcomes) :
    ∃ outcome later, outcomes = outcome :: later ∧ outcome.use = turn.use ∧
      outcome.before = turn.elsewhere world ∧
      outcome.use.watch directory depth outcome.before =
        some (outcome.ending, outcome.after, outcome.events) ∧
      watchAll directory depth others outcome.after = some later := by
  rw [watchAll] at ran
  cases used : turn.use.watch directory depth (turn.elsewhere world) with
  | none => simp [used] at ran
  | some reached =>
      obtain ⟨ending, after, events⟩ := reached
      simp only [used] at ran
      obtain ⟨later, continued, rfl⟩ := Option.map_eq_some_iff.mp ran
      exact ⟨⟨turn.use, turn.elsewhere world, ending, events, after⟩, later, rfl, rfl, rfl, used,
        continued⟩

omit bound in
theorem Turn.watched {turns : List (Turn σ)} {world : World σ} {outcomes : List (Use.Outcome σ)}
    (ran : watchAll directory depth turns world = some outcomes) :
    outcomes.map Use.Outcome.use = turns.map Turn.use ∧ ∀ outcome ∈ outcomes,
      outcome.use.watch directory depth outcome.before =
        some (outcome.ending, outcome.after, outcome.events) := by
  induction turns generalizing world outcomes with
  | nil =>
      cases ran
      simp
  | cons turn others ih =>
      obtain ⟨outcome, later, rfl, same, -, used, continued⟩ := watchAll_cons ran
      obtain ⟨order, behind⟩ := ih continued
      rw [List.map_cons, List.map_cons, same, order, List.forall_mem_cons]
      exact ⟨rfl, used, behind⟩

/-- Once the instance exists, all uses work with it. -/
theorem Turn.all_reuse {turns : List (Turn σ)} {world : World σ} {outcomes : List (Use.Outcome σ)}
    {implementation : Implementation σ}
    (uses : ∀ turn ∈ turns, turn.Uses directory fragment source.cell)
    (full : world.instances.content? source.cell = some implementation)
    (ran : watchAll directory depth turns world = some outcomes) :
    ∀ outcome ∈ outcomes, outcome.Reuses directory depth fragment source implementation := by
  induction turns generalizing world outcomes with
  | nil =>
      cases ran
      simp
  | cons turn others ih =>
      obtain ⟨outcome, later, rfl, same, start, used, continued⟩ := watchAll_cons ran
      have turned := uses turn List.mem_cons_self
      have reaches : outcome.use.Reaches directory fragment := same ▸ turned.reaches
      have present : outcome.before.instances.content? source.cell = some implementation := by
        rw [start, turned.elsewhere, full]
      obtain ⟨reuses, kept⟩ := Use.reuses bound reaches used present
      have behind := ih (fun turn member => uses turn (List.mem_cons_of_mem _ member)) kept continued
      simpa only [List.forall_mem_cons] using ⟨reuses, behind⟩

/-- As long as the instance does not exist, uses fail or one of them makes it. -/
theorem Turn.fail_until_one_makes (apart : source.Apart (directory.watch depth))
    {turns : List (Turn σ)} {world : World σ} {outcomes : List (Use.Outcome σ)}
    (uses : ∀ turn ∈ turns, turn.Uses directory fragment source.cell)
    (empty : world.instances.content? source.cell = none)
    (ran : watchAll directory depth turns world = some outcomes) :
    ∃ failed rest, outcomes = failed ++ rest ∧
      (∀ outcome ∈ failed, outcome.Fails directory depth fragment source) ∧
      (rest = [] ∨ ∃ first later implementation, rest = first :: later ∧
        first.Makes directory depth fragment source implementation ∧
        ∀ outcome ∈ later, outcome.Reuses directory depth fragment source implementation) := by
  induction turns generalizing world outcomes with
  | nil =>
      cases ran
      exact ⟨[], [], rfl, by simp, .inl rfl⟩
  | cons turn others ih =>
      obtain ⟨outcome, later, rfl, same, start, used, continued⟩ := watchAll_cons ran
      have turned := uses turn List.mem_cons_self
      have others_use := fun turn member => uses turn (List.mem_cons_of_mem _ member)
      have reaches : outcome.use.Reaches directory fragment := same ▸ turned.reaches
      have absent : outcome.before.instances.content? source.cell = none := by
        rw [start, turned.elsewhere, empty]
      rcases Use.attempts bound apart reaches used absent with
        ⟨fails, still⟩ | ⟨implementation, makes, full⟩
      · obtain ⟨failed, rest, rfl, all_fail, behind⟩ := ih others_use still continued
        refine ⟨outcome :: failed, rest, rfl, ?_, behind⟩
        simpa only [List.forall_mem_cons] using ⟨fails, all_fail⟩
      · have reuse := Turn.all_reuse bound others_use full continued
        exact ⟨[], outcome :: later, rfl, by simp, .inr ⟨outcome, later, implementation, rfl, makes,
          reuse⟩⟩

end Sequences

namespace Fragment

/-- What a sequence of uses does to the instance of a fragment. -/
structure MaterializesOnce (directory : Directory σ) (depth : Nat) (fragment : Fragment σ)
    (source : Deferred σ) (outcomes : List (Use.Outcome σ)) : Prop where
  /-- The uses are those of the program, with their events. -/
  ran : ∀ outcome ∈ outcomes,
    outcome.use.run directory depth outcome.before = some (outcome.ending, outcome.after)
  /-- Uses fail until one of them makes the instance, and all later ones work with it. -/
  order : ∃ failed rest, outcomes = failed ++ rest ∧
    (∀ outcome ∈ failed, outcome.Fails directory depth fragment source) ∧
    (rest = [] ∨ ∃ first later implementation, rest = first :: later ∧
      first.Makes directory depth fragment source implementation ∧
      ∀ outcome ∈ later, outcome.Reuses directory depth fragment source implementation)
  /-- What is known of a copy without its instance is known in every world. -/
  known : ∀ copy : Fragment σ, copy.binding = some (.deferred source) →
    copy.isImplemented = true ∧ copy.implementationType? = some source.typeName
  /-- A use changes no cell but those that factories run for in it. -/
  others : ∀ outcome ∈ outcomes, ∀ cell, Event.makings cell outcome.events = [] →
    outcome.after.instances.content? cell = outcome.before.instances.content? cell
  /-- A fragment that is resolved after a use has no instance, whatever it is resolved for. -/
  separate : ∀ outcome ∈ outcomes, ∀ (resolver : Resolver σ) contract scope interface,
    (outcome.after.resolve resolver contract scope interface).2.isMaterialized
      (outcome.after.resolve resolver contract scope interface).1 = false

/-- The factory of a fragment runs once in each use up to the first that makes an instance of the
contract, and never again. The uses before fail as their runs of the factory did, the uses from then on
work with that one instance, and it makes no difference through which copies, methods and repositories the
fragment is used. -/
theorem materializes_once {directory : Directory σ} {depth : Nat} {fragment : Fragment σ}
    {source : Deferred σ} (bound : fragment.binding = some (.deferred source))
    (apart : source.Apart (directory.watch depth)) {turns : List (Turn σ)}
    (uses : ∀ turn ∈ turns, turn.Uses directory fragment source.cell) {start : World σ}
    (empty : start.instances.content? source.cell = none) {outcomes : List (Use.Outcome σ)}
    (ran : Turn.watchAll directory depth turns start = some outcomes) :
    outcomes.map Use.Outcome.use = turns.map Turn.use ∧
      fragment.MaterializesOnce directory depth source outcomes := by
  obtain ⟨order, watched⟩ := Turn.watched ran
  refine ⟨order, ?_, Turn.fail_until_one_makes bound apart uses empty ran, ?_, ?_, ?_⟩
  · intro outcome member
    rw [← Use.forget_watch]
    exact Watched.forget_of_ends (watched outcome member)
  · intro copy shared
    rw [isImplemented, implementationType?, shared]
    exact ⟨rfl, rfl⟩
  · intro outcome member cell none
    have law := Cell.law_settled directory cell
    have settled := outcome.use.obeys_watch law (fun _ _ => trivial) depth (watched outcome member)
    exact settled.unchanged none
  · intro outcome _ resolver contract scope interface
    exact outcome.after.isMaterialized_resolve resolver contract scope interface

/-- A factory that fails, makes an instance that satisfies no contract, and is aborted, before it makes
one that can be kept. -/
def stubborn : Factory Nat :=
  let instance? := fun satisfies : Bool => Ending.value
    { typeName := "ClockImpl"
      supports := fun _ => satisfies
      satisfies := fun _ => satisfies
      invoke := fun _ _ => .finish (.value .null) }
  .read fun attempts => .write (attempts + 1) (.finish
    (match attempts with
      | 0 => .failure (.illegalState "")
      | 1 => instance? false
      | 2 => .abort ""
      | _ => instance? true))

theorem materializes_once_stubborn :
    let source : Deferred Nat := ⟨"ClockImpl", stubborn, 0⟩
    let fragment := deferred ((Contract.named "Clock").withMethods [⟨"now", []⟩]) source
    let directory : Directory Nat := fun _ =>
      .ofComposition (.named "Clocks" "" "") (.ofList [fragment]) true
    let call := fun style => Use.call ⟨"Clocks", style, ⟨"now", []⟩, []⟩
    let turns : List (Turn Nat) :=
      [⟨id, .fetch fragment⟩, ⟨(·.reserve 1), .invoke fragment "Clocks" ⟨"now", []⟩ []⟩,
        ⟨(·.report []), call .direct⟩, ⟨id, call .scoped⟩, ⟨id, .fetch fragment⟩]
    fragment.binding = some (.deferred source) ∧ source.Apart (directory.watch 0) ∧
      (∀ turn ∈ turns, turn.Uses directory fragment source.cell) ∧
      ∃ outcomes, Turn.watchAll directory 0 turns (World.initial 0) = some outcomes ∧
        outcomes.map (fun outcome => (Event.makings source.cell outcome.events).length) =
          [1, 1, 1, 1, 0] ∧
        fragment.MaterializesOnce directory 0 source outcomes := by
  intro source fragment directory call turns
  have bound : fragment.binding = some (.deferred source) := rfl
  have apart : source.Apart (directory.watch 0) := by
    intro world made after events empty ran
    cases ran
    rfl
  have routed : (directory "Clocks").target ⟨"now", []⟩ = .ok fragment := by
    have first : (directory "Clocks").composition.DeclaresFirst ⟨"now", []⟩ ⟨0, fragment⟩ := by
      refine ⟨by decide, rfl, by decide, ?_⟩
      intro earlier fragment before
      exact absurd before (Nat.not_lt_zero earlier)
    exact Repository.target_of_declaresFirst first
  have uses : ∀ turn ∈ turns, turn.Uses directory fragment source.cell := by
    simp only [turns, List.forall_mem_cons]
    exact ⟨⟨rfl, fun _ => rfl⟩, ⟨rfl, fun _ => rfl⟩, ⟨routed, fun _ => rfl⟩, ⟨routed, fun _ => rfl⟩,
      ⟨rfl, fun _ => rfl⟩, by simp⟩
  have counted : (Turn.watchAll directory 0 turns (World.initial 0)).map (fun outcomes =>
      outcomes.map fun outcome => (Event.makings source.cell outcome.events).length) =
        some [1, 1, 1, 1, 0] := by
    decide +kernel
  obtain ⟨outcomes, ran, counts⟩ := Option.map_eq_some_iff.mp counted
  exact ⟨bound, apart, uses, outcomes, ran, counts, (materializes_once bound apart uses rfl ran).2⟩

end Fragment

end FragmentAssembly
