import FragmentAssembly.Proofs.Events.Laws

/-!
# What happens to a cell

A cell changes only when a factory runs for it, and no factory runs for a full cell. That is a law: it
holds for every run of every program, and with any repositories.
-/

namespace FragmentAssembly

variable {σ : Type}

/-- How the factories that ran for a cell ended, from the first to the last. -/
def Event.makings (cell : Nat) (events : List (Event σ)) : List (Ending (Implementation σ)) :=
  events.filterMap fun
    | .made other ending => if other = cell then some ending else none
    | _ => none

namespace Event

theorem makings_append (cell : Nat) (events later : List (Event σ)) :
    makings cell (events ++ later) = makings cell events ++ makings cell later :=
  List.filterMap_append

theorem makings_made (cell : Nat) (ending : Ending (Implementation σ)) (later : List (Event σ)) :
    makings cell (.made cell ending :: later) = ending :: makings cell later := by
  simp [makings]

theorem makings_made_of_ne {cell other : Nat} (different : other ≠ cell)
    (ending : Ending (Implementation σ)) : makings cell [.made other ending] = [] := by
  simp [makings, different]

end Event

/-- A cell keeps its content while no factory runs for it, and none does once it is full. -/
structure Cell.Settled (cell : Nat) (before : World σ) (events : List (Event σ)) (after : World σ) :
    Prop where
  /-- Without a factory that runs for the cell, its content stays. -/
  unchanged : Event.makings cell events = [] →
    after.instances.content? cell = before.instances.content? cell
  /-- For a full cell no factory runs. -/
  full : ∀ implementation, before.instances.content? cell = some implementation →
    Event.makings cell events = []

namespace Cell.Settled

theorem of_same {cell : Nat} {before after : World σ} {events : List (Event σ)}
    (same : after.instances = before.instances) (none : Event.makings cell events = []) :
    Settled cell before events after :=
  ⟨fun _ => by rw [same], fun _ _ => none⟩

theorem trans {cell : Nat} {before middle after : World σ} {events later : List (Event σ)}
    (first : Settled cell before events middle) (second : Settled cell middle later after) :
    Settled cell before (events ++ later) after := by
  constructor
  · intro none
    rw [Event.makings_append, List.append_eq_nil_iff] at none
    rw [second.unchanged none.2, first.unchanged none.1]
  · intro implementation full
    have none := first.full implementation full
    have kept := first.unchanged none
    rw [Event.makings_append, none, second.full implementation (kept.trans full)]
    rfl

/-- A factory that runs for a cell changes what is known about that cell only. -/
theorem made {cell other : Nat} {before middle after : World σ} {events : List (Event σ)}
    (empty : before.instances.content? other = none) (inside : Settled cell before events middle)
    (ending : Ending (Implementation σ))
    (elsewhere : other ≠ cell →
      after.instances.content? cell = middle.instances.content? cell) :
    Settled cell before (events ++ [.made other ending]) after := by
  by_cases same : other = cell
  · subst same
    constructor
    · intro none
      simp [Event.makings_append, Event.makings_made] at none
    · intro implementation full
      rw [empty] at full
      cases full
  · constructor
    · intro none
      rw [Event.makings_append, List.append_eq_nil_iff] at none
      rw [elsewhere same, inside.unchanged none.1]
    · intro implementation full
      rw [Event.makings_append, inside.full implementation full, Event.makings_made_of_ne same]
      rfl

end Cell.Settled

/-- Whatever runs, and whatever repositories there are, every cell is settled. -/
theorem Cell.law_settled (directory : Directory σ) (cell : Nat) :
    Law directory (fun _ _ => True) (Settled cell) where
  quiet same := .of_same same rfl
  trans := .trans
  routed _ := trivial
  refused _ _ := .of_same rfl rfl
  lacking _ _ _ _ := .of_same rfl rfl
  served _ _ _ := .of_same rfl rfl
  failed _ _ empty inside _ := inside.made empty _ fun _ => rfl
  kept _ _ empty inside _ := inside.made empty _ fun different => if_neg (Ne.symm different)

end FragmentAssembly
