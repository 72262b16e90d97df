import FragmentAssembly.Composition.Dispatch
import FragmentAssembly.Proofs.FirstOfKey

/-!
# Dispatch by table and by search

A dispatch table is filled slot by slot and method by method, where the first route of a method stays.
A search goes through the slots from the front. The module shows that both answer every method alike,
and where a method stands in the table.
-/

namespace FragmentAssembly

variable {σ : Type}

namespace DispatchTable

/-- All routes of slots numbered from `number`, method by method. -/
def slotRoutes (number : Nat) : List (Fragment σ) → List (Signature × Target σ)
  | [] => []
  | fragment :: others =>
      fragment.contract.methods.map (fun method => (method, ⟨number, fragment⟩)) ++
        slotRoutes (number + 1) others

/-- A partly built table grows by the routes of the slots that are left, one after the other. -/
theorem addSlots_eq_foldl (routes : List (Signature × Target σ)) (number : Nat)
    (slots : List (Fragment σ)) :
    addSlots routes number slots =
      (slotRoutes number slots).foldl (Distinct.insertBy Prod.fst) routes := by
  induction slots generalizing routes number with
  | nil => rfl
  | cons fragment others ih =>
      rw [addSlots, ih, slotRoutes, List.foldl_append, List.foldl_map]
      rfl

/-- The routes that stay are the first ones of their methods. -/
theorem addSlots_eq_firstBy (number : Nat) (slots : List (Fragment σ)) :
    addSlots [] number slots = Distinct.firstBy Prod.fst (slotRoutes number slots) := by
  rw [addSlots_eq_foldl, Distinct.foldl_insertBy_nil]

theorem map_fst_slotRoutes (number : Nat) (slots : List (Fragment σ)) :
    (slotRoutes number slots).map Prod.fst =
      slots.flatMap fun fragment => fragment.contract.methods := by
  induction slots generalizing number with
  | nil => rfl
  | cons fragment others ih =>
      rw [slotRoutes, List.map_append, ih, List.flatMap_cons, List.map_map]
      congr 1
      exact List.map_id _

private theorem find?_routes (methods : List Signature) (target : Target σ) (method : Signature) :
    (methods.map fun declared => (declared, target)).find? (fun route => route.1 = method) =
      if method ∈ methods then some (method, target) else none := by
  induction methods with
  | nil => rfl
  | cons declared others ih =>
      by_cases same : declared = method
      · simp [same]
      · have different : method ≠ declared := fun equal => same equal.symm
        simp only [List.map_cons, List.mem_cons, different, false_or]
        rw [List.find?_cons_of_neg (by simpa using same), ih]

/-- The first route of a method leads to the first slot that declares it. -/
theorem find?_slotRoutes (number : Nat) (slots : List (Fragment σ)) (method : Signature) :
    (slotRoutes number slots).find? (fun route => route.1 = method) =
      ((slots.zipIdx number).find? fun entry => entry.1.hasMethod method).map fun entry =>
        (method, ⟨entry.2, entry.1⟩) := by
  induction slots generalizing number with
  | nil => rfl
  | cons fragment others ih =>
      rw [slotRoutes, List.find?_append, find?_routes, ih, List.zipIdx_cons]
      by_cases declared : method ∈ fragment.contract.methods
      · have has : fragment.hasMethod method = true := Contract.declares_iff.mpr declared
        simp [declared, has]
      · have lacks : ¬fragment.hasMethod method = true := fun has =>
          declared (Contract.declares_iff.mp has)
        simp [declared, lacks]

end DispatchTable

namespace Composition

/-- Looking a method up is searching the numbered slots for it. -/
theorem lookup?_dispatchTable (composition : Composition σ) (method : Signature) :
    composition.dispatchTable.lookup? method =
      (composition.slots.zipIdx.find? fun entry => entry.1.hasMethod method).map fun entry =>
        ⟨entry.2, entry.1⟩ := by
  rw [DispatchTable.lookup?, dispatchTable, DispatchTable.addSlots_eq_firstBy,
    Distinct.find?_firstBy, DispatchTable.find?_slotRoutes, Option.map_map]
  rfl

theorem map_fragment_lookup? (composition : Composition σ) (method : Signature) :
    (composition.dispatchTable.lookup? method).map Target.fragment = composition.declaring? method := by
  have searched := List.find?_map (f := Prod.fst) (l := composition.slots.zipIdx)
    (p := fun fragment : Fragment σ => fragment.hasMethod method)
  rw [List.zipIdx_map_fst] at searched
  rw [declaring?, searched, lookup?_dispatchTable, Option.map_map]
  rfl

theorem map_slot_lookup? (composition : Composition σ) (method : Signature) :
    (composition.dispatchTable.lookup? method).map Target.slot =
      (composition.slots.map Fragment.contract).findIdx? (·.declares method) := by
  rw [lookup?_dispatchTable, Option.map_map, List.findIdx?_map, List.findIdx?_eq_fst_find?_zipIdx]
  rfl

theorem resolve_dispatchTable (composition : Composition σ) (method : Signature) :
    composition.dispatchTable.resolve method = composition.findMethod method := by
  rw [DispatchTable.resolve, findMethod, ← map_fragment_lookup?]
  cases composition.dispatchTable.lookup? method with
  | none => rfl
  | some target => rfl

theorem isSome_lookup?_dispatchTable (composition : Composition σ) (method : Signature) :
    (composition.dispatchTable.lookup? method).isSome = true ↔
      ∃ fragment ∈ composition.slots, fragment.hasMethod method = true := by
  rw [← Option.isSome_map, map_fragment_lookup?, declaring?, List.find?_isSome]

/-- The table lists every declared method once, in order of first appearance. -/
theorem methods_dispatchTable (composition : Composition σ) :
    composition.dispatchTable.methods =
      (composition.slots.flatMap fun fragment => fragment.contract.methods).eraseDups := by
  rw [DispatchTable.methods, dispatchTable, DispatchTable.addSlots_eq_firstBy,
    Distinct.map_firstBy, DispatchTable.map_fst_slotRoutes]

theorem nodup_methods_dispatchTable (composition : Composition σ) :
    composition.dispatchTable.methods.Nodup := by
  rw [DispatchTable.methods, dispatchTable, DispatchTable.addSlots_eq_firstBy]
  exact Distinct.nodup_map_firstBy _

/-- A target is the first slot of a composition that declares a method. -/
structure DeclaresFirst (composition : Composition σ) (method : Signature) (target : Target σ) :
    Prop where
  /-- The number of the target is that of a slot. -/
  lt_size : target.slot < composition.size
  /-- The target has the fragment of that slot. -/
  getElem?_eq : composition.slots[target.slot]? = some target.fragment
  /-- That fragment declares the method. -/
  declares : target.fragment.hasMethod method = true
  /-- No slot before it declares the method. -/
  lacks : ∀ earlier fragment, earlier < target.slot → composition.slots[earlier]? = some fragment →
    fragment.hasMethod method = false

theorem lookup?_eq_some_iff (composition : Composition σ) (method : Signature) (target : Target σ) :
    composition.dispatchTable.lookup? method = some target ↔
      composition.DeclaresFirst method target := by
  rw [lookup?_dispatchTable, Option.map_eq_some_iff]
  constructor
  · rintro ⟨⟨fragment, slot⟩, found, rfl⟩
    obtain ⟨declares, number, bound, at_number, before⟩ := List.find?_eq_some_iff_getElem.mp found
    rw [List.getElem_zipIdx, Prod.mk.injEq, Nat.zero_add] at at_number
    obtain ⟨rfl, rfl⟩ := at_number
    have inside : number < composition.slots.length := by simpa using bound
    refine ⟨inside, List.getElem?_eq_getElem inside, declares, ?_⟩
    intro earlier fragment smaller at_earlier
    obtain ⟨within, rfl⟩ := List.getElem?_eq_some_iff.mp at_earlier
    simpa using before earlier smaller
  · intro first
    obtain ⟨inside, at_slot⟩ := List.getElem?_eq_some_iff.mp first.getElem?_eq
    refine ⟨(target.fragment, target.slot), ?_, rfl⟩
    rw [List.find?_eq_some_iff_getElem]
    refine ⟨first.declares, target.slot, by simpa using inside, by simp [at_slot], ?_⟩
    intro earlier smaller
    have lacks := first.lacks earlier _ smaller (List.getElem?_eq_getElem (by omega))
    simpa using lacks

/-- A dispatch table answers every method as the search through the slots does, its routes lead to the
first slots that declare their methods, and it lists each declared method once, where it first
appears. -/
theorem dispatchTable_agrees_with_search (composition : Composition σ) :
    (∀ method, composition.dispatchTable.resolve method = composition.findMethod method) ∧
      (∀ method, (composition.dispatchTable.lookup? method).isSome = true ↔
        ∃ fragment ∈ composition.slots, fragment.hasMethod method = true) ∧
      (∀ method target, composition.dispatchTable.lookup? method = some target ↔
        composition.DeclaresFirst method target) ∧
      composition.dispatchTable.methods.Nodup ∧
      composition.dispatchTable.methods =
        (composition.slots.flatMap fun fragment => fragment.contract.methods).eraseDups :=
  ⟨composition.resolve_dispatchTable, composition.isSome_lookup?_dispatchTable,
    composition.lookup?_eq_some_iff, composition.nodup_methods_dispatchTable,
    composition.methods_dispatchTable⟩

end Composition
end FragmentAssembly
