import FragmentAssembly.Proofs.Registrations.Merging
import FragmentAssembly.Proofs.Registrations.Reading

/-!
# The algebra of merging

Registrations come about by declaring, reading and merging, in any order. Whatever the order, a contract has
what was declared for it on the way, without repetitions. So what merging adds to the list of a contract is
what the list lacks. Registrations are equal if they have the same lists, in any order of the contracts, and
under this equality merging is associative and idempotent, with the empty registrations as identity.
-/

namespace FragmentAssembly
namespace Registrations

/-! ## Equality -/

theorem mem_contracts_iff {registrations : Registrations} {contract : String} :
    contract ∈ registrations.contracts ↔ registrations.implementationsFor contract ≠ [] := by
  constructor
  · intro listed
    obtain ⟨entry, member, rfl⟩ := List.mem_map.mp listed
    rw [implementationsFor_of_mem member]
    exact entry.ne_nil
  · intro declared
    rw [implementationsFor] at declared
    split at declared
    · rename_i entry found
      have same : entry.contract = contract := by simpa using List.find?_some found
      exact List.mem_map.mpr ⟨entry, List.mem_of_find?_eq_some found, same⟩
    · exact absurd rfl declared

theorem implementationsFor_of_notMem {registrations : Registrations} {contract : String}
    (unlisted : contract ∉ registrations.contracts) :
    registrations.implementationsFor contract = [] :=
  Decidable.not_not.mp fun declared => unlisted (mem_contracts_iff.mpr declared)

theorem mem_entries_iff {registrations : Registrations} {entry : Entry} :
    entry ∈ registrations.entries ↔
      registrations.implementationsFor entry.contract = entry.implementations := by
  refine ⟨implementationsFor_of_mem, ?_⟩
  intro listed
  have declared : entry.contract ∈ registrations.contracts :=
    mem_contracts_iff.mpr (listed ▸ entry.ne_nil)
  obtain ⟨found, member, contract⟩ := List.mem_map.mp declared
  have implementations : found.implementations = entry.implementations := by
    rw [← implementationsFor_of_mem member, contract, listed]
  obtain ⟨_, _, _, _⟩ := entry
  obtain ⟨_, _, _, _⟩ := found
  cases contract
  cases implementations
  exact member

/-- Equality ignores the order of the contracts and nothing else. -/
theorem equivalent_iff {left right : Registrations} :
    left.equivalent right = true ↔
      ∀ contract, left.implementationsFor contract = right.implementationsFor contract := by
  have entries : left.equivalent right = true ↔
      ∀ entry, entry ∈ left.entries ↔ entry ∈ right.entries := by
    simp only [equivalent, Bool.and_eq_true, List.all_eq_true, List.contains_iff_mem]
    exact ⟨fun same entry => ⟨same.1 entry, same.2 entry⟩,
      fun same => ⟨fun entry => (same entry).mp, fun entry => (same entry).mpr⟩⟩
  rw [entries]
  constructor
  · intro same contract
    have contracts : contract ∈ left.contracts ↔ contract ∈ right.contracts := by
      simp only [Registrations.contracts, List.mem_map, same]
    by_cases listed : contract ∈ left.contracts
    · obtain ⟨entry, member, rfl⟩ := List.mem_map.mp listed
      rw [implementationsFor_of_mem member, implementationsFor_of_mem ((same entry).mp member)]
    · have unlisted : contract ∉ right.contracts := fun other => listed (contracts.mpr other)
      rw [implementationsFor_of_notMem listed, implementationsFor_of_notMem unlisted]
  · intro same entry
    rw [mem_entries_iff, mem_entries_iff, same]

theorem equivalent_refl (registrations : Registrations) :
    registrations.equivalent registrations = true :=
  equivalent_iff.mpr fun _ => rfl

/-! ## How registrations come about -/

/-- Registrations come about by declaring, reading and merging. These are all declarations on the way, in
order. -/
inductive Gathered : List Declaration → Registrations → Prop where
  /-- Nothing is declared. -/
  | empty : Gathered [] .empty
  /-- An implementation is declared. -/
  | register {declared : List Declaration} {registrations : Registrations}
      (before : Gathered declared registrations) (contract implementation : String) :
      Gathered (declared ++ [⟨contract, [implementation]⟩])
        (registrations.register contract implementation)
  /-- A text is read. -/
  | parse {text : String} {declared : List Declaration} {registrations : Registrations}
      (read : Declared (logicalLines text.toList) declared)
      (success : parse text = .ok registrations) : Gathered declared registrations
  /-- Registrations are merged. -/
  | merge {declared others : List Declaration} {left right : Registrations}
      (first : Gathered declared left) (second : Gathered others right) :
      Gathered (declared ++ others) (left.merge right)

theorem exists_gathered_of_parse {text : String} {registrations : Registrations}
    (success : parse text = .ok registrations) : ∃ declared, Gathered declared registrations := by
  obtain ⟨declared, read, -⟩ := declareLines_eq_ok_iff.mp success
  exact ⟨declared, .parse read success⟩

theorem declareAll_append (registrations : Registrations) (front back : List Declaration) :
    registrations.declareAll (front ++ back) = (registrations.declareAll front).declareAll back :=
  List.foldl_append

namespace Gathered

variable {declared : List Declaration} {registrations : Registrations}

theorem implementations_ne_nil (gathered : Gathered declared registrations) :
    ∀ declaration ∈ declared, declaration.implementations ≠ [] := by
  induction gathered with
  | empty => exact List.forall_mem_nil _
  | register _ contract implementation ih =>
      intro declaration member
      rcases List.mem_append.mp member with before | last
      · exact ih declaration before
      · rw [List.mem_singleton.mp last]
        exact List.cons_ne_nil implementation []
  | parse read _ => exact read.implementations_ne_nil
  | merge _ _ first second =>
      intro declaration member
      rcases List.mem_append.mp member with front | back
      · exact first declaration front
      · exact second declaration back

/-- However registrations come about, they are what all declarations amount to. -/
theorem eq_declareAll (gathered : Gathered declared registrations) :
    registrations = Registrations.empty.declareAll declared := by
  induction gathered with
  | empty => rfl
  | register _ contract implementation ih =>
      rw [declareAll_append, ← ih]
      rfl
  | parse read success =>
      rw [Registrations.parse, declareLines_of_declared read] at success
      cases success
      rfl
  | merge _ second front back =>
      rw [declareAll_append, ← front, declareAll_eq_merge _ second.implementations_ne_nil, ← back]

theorem implementationsFor_eq (gathered : Gathered declared registrations) (contract : String) :
    registrations.implementationsFor contract = (namedFor contract declared).eraseDups := by
  rw [gathered.eq_declareAll, implementationsFor_declareAll, ← Distinct.insertAll_nil]
  rfl

end Gathered

/-! ## Merging -/

theorem nodup_implementationsFor (registrations : Registrations) (contract : String) :
    (registrations.implementationsFor contract).Nodup := by
  by_cases listed : contract ∈ registrations.contracts
  · obtain ⟨entry, member, rfl⟩ := List.mem_map.mp listed
    rw [implementationsFor_of_mem member]
    exact entry.nodup
  · rw [implementationsFor_of_notMem listed]
    exact List.nodup_nil

/-- Merging adds to the list of a contract what the list lacks. -/
theorem implementationsFor_merge_eq_append (registrations others : Registrations) (contract : String) :
    (registrations.merge others).implementationsFor contract =
      registrations.implementationsFor contract ++
        (others.implementationsFor contract).filter
          (· ∉ registrations.implementationsFor contract) := by
  rw [implementationsFor_merge,
    Distinct.insertAll_eq_append_filter (nodup_implementationsFor others contract)]

theorem merge_assoc (first second third : Registrations) :
    (first.merge second).merge third = first.merge (second.merge third) := by
  apply eq_of_lookups
  · simp only [contracts_merge, Distinct.insertAll_insertAll]
  · intro contract
    simp only [implementationsFor_merge, Distinct.insertAll_insertAll]

theorem merge_empty (registrations : Registrations) : registrations.merge empty = registrations := rfl

theorem empty_merge (registrations : Registrations) : empty.merge registrations = registrations := by
  apply eq_of_lookups
  · have started : Distinct.insertAll [] registrations.contracts = registrations.contracts :=
      Distinct.insertAll_of_nodup registrations.nodup
    rw [contracts_merge]
    exact started
  · intro contract
    have started : Distinct.insertAll [] (registrations.implementationsFor contract) =
        registrations.implementationsFor contract :=
      Distinct.insertAll_of_nodup (nodup_implementationsFor registrations contract)
    rw [implementationsFor_merge]
    exact started

theorem merge_self (registrations : Registrations) :
    registrations.merge registrations = registrations := by
  apply eq_of_lookups
  · rw [contracts_merge]
    exact Distinct.insertAll_self registrations.nodup
  · intro contract
    rw [implementationsFor_merge]
    exact Distinct.insertAll_self (nodup_implementationsFor registrations contract)

/-- However registrations come about, a contract that is listed has the implementations that were declared
for it, at least one and none twice. Merging puts what the first list lacks behind it, in the order of the
second. So merging is associative and idempotent, with the empty registrations as identity, where equal
registrations have the same lists in any order of the contracts. -/
theorem merge_laws {declared : List Declaration} {first : Registrations}
    (gathered : Gathered declared first) (second third : Registrations) :
    (∀ contract ∈ first.contracts,
        first.implementationsFor contract = (namedFor contract declared).eraseDups ∧
          first.implementationsFor contract ≠ [] ∧ (first.implementationsFor contract).Nodup) ∧
      (∀ contract, (first.merge second).implementationsFor contract =
        first.implementationsFor contract ++
          (second.implementationsFor contract).filter
            (· ∉ first.implementationsFor contract)) ∧
      (first.equivalent second = true ↔
        ∀ contract, first.implementationsFor contract = second.implementationsFor contract) ∧
      ((first.merge second).merge third).equivalent (first.merge (second.merge third)) = true ∧
      (empty.merge first).equivalent first = true ∧
      (first.merge empty).equivalent first = true ∧
      (first.merge first).equivalent first = true := by
  refine ⟨?_, implementationsFor_merge_eq_append first second, equivalent_iff, ?_, ?_, ?_, ?_⟩
  · intro contract listed
    exact ⟨gathered.implementationsFor_eq contract, mem_contracts_iff.mp listed,
      nodup_implementationsFor first contract⟩
  · rw [merge_assoc]
    exact equivalent_refl _
  · rw [empty_merge]
    exact equivalent_refl first
  · rw [merge_empty]
    exact equivalent_refl first
  · rw [merge_self]
    exact equivalent_refl first

theorem merge_laws_overlapping :
    let first := (empty.registerAll "a.B" ["c.D", "c.E"]).register "x.Y" "c.D"
    let second := empty.registerAll "a.B" ["c.F", "c.D"]
    Gathered [⟨"a.B", ["c.D", "c.E", "c.D"]⟩, ⟨"x.Y", ["c.D"]⟩] first ∧
      "a.B" ∈ first.contracts ∧
      first.implementationsFor "a.B" = ["c.D", "c.E"] ∧
      (first.merge second).implementationsFor "a.B" = ["c.D", "c.E", "c.F"] ∧
      ((first.merge second).merge first).equivalent (first.merge (second.merge first)) = true := by
  intro first second
  have read : Declared (logicalLines "a.B=c.D, c.E, c.D".toList) [⟨"a.B", ["c.D", "c.E", "c.D"]⟩] :=
    .cons (declaration_eq_ok_iff.mp rfl) .nil
  have gathered : Gathered [⟨"a.B", ["c.D", "c.E", "c.D"]⟩, ⟨"x.Y", ["c.D"]⟩] first :=
    .register (.parse read rfl) "x.Y" "c.D"
  have listed : "a.B" ∈ first.contracts := by decide
  obtain ⟨lists, merged, -, associative, -⟩ := merge_laws gathered second first
  exact ⟨gathered, listed, (lists "a.B" listed).1, merged "a.B", associative⟩

end Registrations
end FragmentAssembly
