import FragmentAssembly.Proofs.Journal.Innermost
import FragmentAssembly.Proofs.Tasks.Restoration

/-!
# The innermost scope of a task decides

What a task reads is what its own innermost scope or call shows. Its position in its own program decides
that, not what was polled before it, and not the scopes of any other task.
-/

namespace FragmentAssembly

variable {σ ι : Type}

/-- Inside a scope of the task its invocation is in progress, unless the thread decides. -/
theorem Block.current?_enter_ofInvocation? {outer : Surroundings} (unset : outer.thread = .unset)
    (shown : Option Invocation) : ((ofInvocation? shown).enter outer).current? = shown := by
  rw [enter_ofInvocation?, Surroundings.current?]
  simp only [unset]
  cases shown with
  | none => rfl
  | some invocation => rfl

/-- Every answer is what the innermost scope or call shows; outside of all of them it is the one that is
given. -/
def Transcript.FollowsInnermost (directory : Directory σ) : Option Invocation → Transcript → Prop
  | _, .done => True
  | shown, .read answer rest =>
      answer = Invocation.reply shown ∧ rest.FollowsInnermost directory shown
  | shown, .call _ journal rest =>
      journal.FollowsInnermost directory shown ∧ rest.FollowsInnermost directory shown
  | shown, .block own inside rest =>
      inside.FollowsInnermost directory own ∧ rest.FollowsInnermost directory shown

namespace Task

section Polls

variable {directory : Directory σ} {answer : Call → Recorded σ Json}
  (restores : ∀ request, (answer request).forget.Restores)
  (follows : ∀ request, (answer request).Follows directory fun _ => True)

include restores follows

/-- A task reads what its innermost scope or call shows, while the slot of the thread is unset. -/
theorem follows_poll (task : Task) {before after : World σ} {progress : Progress}
    {transcript : Transcript} (unset : before.surroundings.thread = .unset)
    (unguarded : before.Unguarded)
    (ran : task.poll answer before = some (progress, after, transcript)) :
    after.Unguarded ∧ transcript.FollowsInnermost directory before.surroundings.current? := by
  induction task generalizing before progress after transcript with
  | finish ending =>
      cases ran
      exact ⟨unguarded, trivial⟩
  | suspend next ih =>
      cases ran
      exact ⟨unguarded, trivial⟩
  | current next ih =>
      obtain ⟨rest, continued, rfl⟩ := Polled.ends_of_within ran
      obtain ⟨still, followed⟩ := ih _ unset unguarded continued
      exact ⟨still, rfl, followed⟩
  | prepare interface method next ih =>
      have made : (before.prepare interface method).2.Unguarded := unguarded
      have deferring : (before.prepare interface method).2.surroundings.thread = .unset := unset
      have outcome := ih _ deferring made ran
      exact outcome
  | call request next ih =>
      obtain ⟨ending, middle, journal, rest, called, continued, rfl⟩ := poll_call_cases ran
      have inner := follows request unguarded called
      have restored := restores request (Recorded.forget_eq_some called)
      obtain ⟨still, followed⟩ := ih ending (restored ▸ unset) inner.unguarded continued
      rw [restored] at followed
      exact ⟨still, inner.follows, followed⟩
  | block shown body next within behind =>
      have deferring : (before.enter (.ofInvocation? shown)).surroundings.thread = .unset := by
        rw [World.enter, Block.enter_ofInvocation?]
        exact unset
      have shows : (before.enter (.ofInvocation? shown)).surroundings.current? = shown :=
        Block.current?_enter_ofInvocation? unset shown
      have entered : (before.enter (.ofInvocation? shown)).Unguarded := unguarded
      rcases poll_block_cases ran with ⟨later, inner, inside, worked, -, rfl, rfl⟩ |
        ⟨ending, inner, inside, rest, worked, continued, rfl⟩
      · obtain ⟨still, followed⟩ := within deferring entered worked
        rw [shows] at followed
        exact ⟨still, followed, trivial⟩
      · obtain ⟨still, followed⟩ := within deferring entered worked
        rw [shows] at followed
        have restored := World.surroundings_leave (surroundings_poll restores body worked)
        have left : (inner.leave (.ofInvocation? shown) before).Unguarded := still
        obtain ⟨ended, others⟩ := behind ending (restored ▸ unset) left continued
        rw [restored] at others
        exact ⟨ended, followed, others⟩

variable [DecidableEq ι]

/-- In every turn a task reads what its own innermost scope or call shows. -/
theorem follows_interleave {tasks : ι → Task} {schedule : List ι} {world : World σ}
    {history : List (Turn ι σ)} (unset : world.surroundings.thread = .unset)
    (unguarded : world.Unguarded) (ran : interleave answer tasks schedule world = some history) :
    ∀ turn ∈ history,
      turn.transcript.FollowsInnermost directory world.surroundings.current? := by
  induction schedule generalizing tasks world history with
  | nil =>
      rw [interleave_nil] at ran
      cases ran
      exact List.forall_mem_nil _
  | cons index schedule ih =>
      obtain ⟨progress, after, transcript, later, polled, continued, rfl⟩ := interleave_cons_cases ran
      have restored := surroundings_poll restores (tasks index) polled
      obtain ⟨still, followed⟩ := follows_poll restores follows (tasks index) unset unguarded polled
      have others := ih (restored ▸ unset) still continued
      rw [restored] at others
      exact List.forall_mem_cons.mpr ⟨followed, others⟩

end Polls

end Task
end FragmentAssembly
