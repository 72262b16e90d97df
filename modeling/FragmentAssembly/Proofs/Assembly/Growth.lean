import FragmentAssembly.Proofs.Assembly.Copies
import FragmentAssembly.Proofs.Assembly.Session
import FragmentAssembly.Proofs.Repository.Creation

/-!
# How sessions grow

A step that runs nothing adds to what is at hand. The fragments that are new afterwards have cells that
were not handed out before.
-/

namespace FragmentAssembly

variable {σ : Type}

namespace World

theorem keepsCells_refl (world : World σ) : world.KeepsCells world :=
  ⟨rfl, Nat.le_refl _⟩

theorem keepsCells_reserve (world : World σ) (count : Nat) (notices : List Notice) :
    world.KeepsCells ((world.reserve count).report notices) :=
  ⟨rfl, Nat.le_add_right _ _⟩

end World

namespace Session

/-- Nothing runs from one session to another, and these fragments are new. -/
structure Grows (session after : Session σ) (fragments : List (Fragment σ)) : Prop where
  /-- There are no new events. -/
  events : after.events = session.events
  /-- No cell changes its content. -/
  world : session.world.KeepsCells after.world
  /-- What is at hand was so before or is new. -/
  knows : ∀ fragment, after.Knows fragment → session.Knows fragment ∨ fragment ∈ fragments
  /-- No repository gets lost. -/
  hosts : ∀ repository, session.Hosts repository → after.Hosts repository
  /-- New fragments have new cells. -/
  new : Fragment.NewIn session.world.instances.next after.world.instances.next fragments

variable {session : Session σ} {fragments : List (Fragment σ)}

theorem grows_inWorld {world : World σ} (kept : session.world.KeepsCells world) :
    session.Grows (session.inWorld world) [] where
  events := rfl
  world := kept
  knows _ := Or.inl
  hosts _ := id
  new := Fragment.newIn_nil _ _

theorem grows_withFragment {made : Fragment σ × World σ} (kept : session.world.KeepsCells made.2)
    (origin : session.Knows made.1 ∨ made.1 ∈ fragments)
    (new : Fragment.NewIn session.world.instances.next made.2.instances.next fragments) :
    session.Grows (session.withFragment made) fragments where
  events := rfl
  world := kept
  knows fragment := by
    rintro (loose | elsewhere)
    · rcases List.mem_cons.mp loose with rfl | before
      · exact origin
      · exact .inl (.inl before)
    · exact .inl (.inr elsewhere)
  hosts _ := id
  new := new

theorem grows_withComposition {made : Composition σ × World σ}
    (kept : session.world.KeepsCells made.2)
    (origin : ∀ slot ∈ made.1.slots, session.Knows slot ∨ slot ∈ fragments)
    (new : Fragment.NewIn session.world.instances.next made.2.instances.next fragments) :
    session.Grows (session.withComposition made) fragments where
  events := rfl
  world := kept
  knows fragment := by
    rintro (loose | ⟨composition, present, slot⟩ | hosted)
    · exact .inl (.inl loose)
    · rcases List.mem_cons.mp present with rfl | before
      · exact origin fragment slot
      · exact .inl (.inr (.inl ⟨composition, before, slot⟩))
    · exact .inl (.inr (.inr hosted))
  hosts _ := id
  new := new

theorem grows_withRepository {made : Repository σ × World σ} (name : String)
    (kept : session.world.KeepsCells made.2)
    (origin : ∀ slot ∈ made.1.composition.slots, session.Knows slot ∨ slot ∈ fragments)
    (new : Fragment.NewIn session.world.instances.next made.2.instances.next fragments) :
    session.Grows (session.withRepository name made) fragments where
  events := rfl
  world := kept
  knows fragment := by
    rintro (loose | composed | ⟨entry, listed, slot⟩)
    · exact .inl (.inl loose)
    · exact .inl (.inr (.inl composed))
    · rcases List.mem_cons.mp listed with rfl | before
      · exact origin fragment slot
      · exact .inl (.inr (.inr ⟨entry, before, slot⟩))
  hosts repository := by
    rintro ⟨other, listed⟩
    exact ⟨other, List.mem_cons_of_mem _ listed⟩
  new := new

/-- A single fragment is new, and the cell that was handed out for it is its own. -/
theorem grows_with_new {made : Fragment σ × World σ} (kept : session.world.KeepsCells made.2)
    (cells : ∀ cell, made.1.Owns cell →
      session.world.instances.next ≤ cell ∧ cell < made.2.instances.next) :
    session.Grows (session.withFragment made) [made.1] :=
  grows_withFragment kept (.inr (List.mem_singleton.mpr rfl)) (Fragment.newIn_singleton cells)

theorem grows_append {composition : Composition σ} (present : composition ∈ session.compositions)
    (known : ∀ fragment ∈ fragments, fragment ∈ session.fragments) :
    session.Grows (session.withComposition (session.world.appendAll composition fragments)) [] := by
  refine grows_withComposition ⟨rfl, Nat.le_refl _⟩ ?_ (Fragment.newIn_nil _ _)
  intro slot member
  rcases Composition.mem_slots_appendAll member with before | appended
  · exact .inl (.inr (.inl ⟨composition, present, before⟩))
  · exact .inl (.inl (known slot appended))

theorem grows_bind {composition : Composition σ} (present : composition ∈ session.compositions)
    (resolver : Resolver σ) (scope : SearchScope) (interface : Interface) :
    session.Grows
      (session.withComposition (session.world.bind resolver composition scope interface))
      (resolver.resolveAll scope interface session.world.instances.next
        (Resolver.openContracts composition)) := by
  refine grows_withComposition (World.keepsCells_reserve _ _ _) ?_ ?_
  · intro slot member
    rcases Composition.mem_slots_appendAll member with before | resolved
    · exact .inl (.inr (.inl ⟨composition, present, before⟩))
    · exact .inr resolved
  · have room : (Resolver.openContracts composition).length ≤ composition.size := by
      rw [Resolver.openContracts, List.length_map]
      exact List.length_filter_le _ _
    exact resolver.newIn_resolveAll scope interface (Nat.add_le_add_left room _)

theorem newIn_compose (world : World σ) (resolver : Resolver σ) (interface : Interface)
    (scope : SearchScope) :
    Fragment.NewIn world.instances.next (world.instances.next + interface.contracts.length)
      (resolver.resolveAll scope interface world.instances.next
        (Distinct.firstBy Contract.name interface.contracts)) :=
  resolver.newIn_resolveAll scope interface
    (Nat.add_le_add_left (Distinct.length_firstBy_le interface.contracts) _)

/-- What is composed for an interface is its base and what is resolved. -/
theorem origin_compose {base : Fragment σ} (known : base ∈ session.fragments) (resolver : Resolver σ)
    (interface : Interface) (scope : SearchScope) (cell : Nat) :
    ∀ slot ∈ (resolver.compose interface scope base cell).slots, session.Knows slot ∨
      slot ∈ resolver.resolveAll scope interface cell
        (Distinct.firstBy Contract.name interface.contracts) := by
  intro slot member
  rcases resolver.eq_base_or_mem_resolveAll scope interface member with rfl | resolved
  · exact .inl (.inl known)
  · exact .inr resolved

theorem grows_compose {base : Fragment σ} (known : base ∈ session.fragments) (resolver : Resolver σ)
    (interface : Interface) (scope : SearchScope) :
    session.Grows
      (session.withComposition (session.world.compose resolver interface scope base))
      (resolver.resolveAll scope interface session.world.instances.next
        (Distinct.firstBy Contract.name interface.contracts)) :=
  grows_withComposition (World.keepsCells_reserve _ _ _)
    (origin_compose known resolver interface scope _) (newIn_compose _ resolver interface scope)

theorem grows_create {base : Fragment σ} (known : base ∈ session.fragments) {assembler : Assembler σ}
    {interface : Interface} {repository : Repository σ} {after : World σ}
    (created : session.world.create assembler interface base = (.ok repository, after))
    (name : String) :
    session.Grows (session.withRepository name (repository, after))
      (assembler.resolver.resolveAll assembler.scope interface session.world.instances.next
        (Distinct.firstBy Contract.name interface.contracts)) := by
  obtain ⟨made, rfl⟩ := Prod.mk.inj created
  have moded : (assembler.inMode assembler.configuration.bootstrapMode).create interface base
      session.world.instances.next = .ok repository := made
  have assembled := Assembler.create_eq_ok moded
  subst assembled
  exact grows_withRepository name (World.keepsCells_reserve _ _ _)
    (origin_compose known assembler.resolver interface assembler.scope _)
    (newIn_compose _ assembler.resolver interface assembler.scope)

end Session
end FragmentAssembly
