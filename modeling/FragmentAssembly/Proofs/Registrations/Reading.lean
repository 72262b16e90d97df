import FragmentAssembly.Proofs.Registrations.Declaring
import FragmentAssembly.Proofs.Registrations.Grouping
import FragmentAssembly.Proofs.Registrations.Lookup

/-!
# Registration texts

A text is read if all its logical lines are well-formed. Then all that they declare is registered, in the
order of the text. Otherwise the first malformed line is reported, with the number of the physical line
that it begins with.
-/

namespace FragmentAssembly
namespace Registrations

/-- Logical lines are well-formed, and these are their declarations. -/
inductive Declared : List LogicalLine → List Declaration → Prop where
  | nil : Declared [] []
  | cons {line : LogicalLine} {lines : List LogicalLine} {first : Declaration}
      {others : List Declaration} (declares : Declares line.content first)
      (behind : Declared lines others) : Declared (line :: lines) (first :: others)

/-- The first malformed line is the one with this number, and this is wrong with it. -/
inductive FirstFaulty : List LogicalLine → Rejection → Prop where
  | here {line : LogicalLine} {lines : List LogicalLine} {malformation : Malformation}
      (faulty : Faulty line.content malformation) :
      FirstFaulty (line :: lines) ⟨line.number, malformation⟩
  | behind {line : LogicalLine} {lines : List LogicalLine} {declared : Declaration}
      {rejection : Rejection} (declares : Declares line.content declared)
      (others : FirstFaulty lines rejection) : FirstFaulty (line :: lines) rejection

theorem exists_declared_iff {lines : List LogicalLine} :
    (∃ declared, Declared lines declared) ↔
      ∀ line ∈ lines, ∃ declared, Declares line.content declared := by
  induction lines with
  | nil => exact ⟨fun _ _ member => (List.not_mem_nil member).elim, fun _ => ⟨[], .nil⟩⟩
  | cons line lines ih =>
      rw [List.forall_mem_cons, ← ih]
      constructor
      · rintro ⟨_, _ | ⟨declares, behind⟩⟩
        exact ⟨⟨_, declares⟩, _, behind⟩
      · rintro ⟨⟨first, declares⟩, others, behind⟩
        exact ⟨first :: others, .cons declares behind⟩

theorem Declared.implementations_ne_nil {lines : List LogicalLine} {declared : List Declaration}
    (read : Declared lines declared) :
    ∀ declaration ∈ declared, declaration.implementations ≠ [] := by
  induction read with
  | nil => exact fun _ member => (List.not_mem_nil member).elim
  | cons declares _ ih => exact List.forall_mem_cons.mpr ⟨declares.implementations_ne_nil, ih⟩

theorem declareLines_of_declared {lines : List LogicalLine} {declared : List Declaration}
    (read : Declared lines declared) (registrations : Registrations) :
    declareLines registrations lines = .ok (registrations.declareAll declared) := by
  induction read generalizing registrations with
  | nil => rfl
  | @cons line lines first others declares _ ih =>
      rw [declareLines, declaration_of_declares declares]
      exact ih (registrations.registerAll first.contract first.implementations)

/-- The first malformed line ends the reading. -/
theorem declareLines_of_firstFaulty {lines : List LogicalLine} {rejection : Rejection}
    (malformed : FirstFaulty lines rejection) (registrations : Registrations) :
    declareLines registrations lines = .error rejection := by
  induction malformed generalizing registrations with
  | here faulty => rw [declareLines, declaration_of_faulty faulty]
  | @behind line lines declared rejection declares _ ih =>
      rw [declareLines, declaration_of_declares declares]
      exact ih (registrations.registerAll declared.contract declared.implementations)

theorem declared_or_firstFaulty (lines : List LogicalLine) :
    (∃ declared, Declared lines declared) ∨ ∃ rejection, FirstFaulty lines rejection := by
  induction lines with
  | nil => exact .inl ⟨[], .nil⟩
  | cons line lines ih =>
      rcases declares_or_faulty line.content with ⟨first, declares⟩ | ⟨malformation, faulty⟩
      · rcases ih with ⟨others, behind⟩ | ⟨rejection, malformed⟩
        · exact .inl ⟨first :: others, .cons declares behind⟩
        · exact .inr ⟨rejection, .behind declares malformed⟩
      · exact .inr ⟨⟨line.number, malformation⟩, .here faulty⟩

theorem declareLines_eq_ok_iff {registrations result : Registrations} {lines : List LogicalLine} :
    declareLines registrations lines = .ok result ↔
      ∃ declared, Declared lines declared ∧ result = registrations.declareAll declared := by
  constructor
  · intro success
    rcases declared_or_firstFaulty lines with ⟨declared, read⟩ | ⟨rejection, malformed⟩
    · rw [declareLines_of_declared read] at success
      cases success
      exact ⟨declared, read, rfl⟩
    · rw [declareLines_of_firstFaulty malformed] at success
      cases success
  · rintro ⟨declared, read, rfl⟩
    exact declareLines_of_declared read registrations

theorem declareLines_eq_error_iff {registrations : Registrations} {lines : List LogicalLine}
    {rejection : Rejection} :
    declareLines registrations lines = .error rejection ↔ FirstFaulty lines rejection := by
  constructor
  · intro failure
    rcases declared_or_firstFaulty lines with ⟨declared, read⟩ | ⟨other, malformed⟩
    · rw [declareLines_of_declared read] at failure
      cases failure
    · rw [declareLines_of_firstFaulty malformed] at failure
      cases failure
      exact malformed
  · exact fun malformed => declareLines_of_firstFaulty malformed registrations

/-- Registered is what all lines declare, without repetitions, and nothing else. -/
theorem lookups_of_declared {lines : List LogicalLine} {declared : List Declaration}
    (read : Declared lines declared) :
    (∀ contract, (empty.declareAll declared).implementationsFor contract =
        (namedFor contract declared).eraseDups) ∧
      (empty.declareAll declared).contracts = (declared.map Declaration.contract).eraseDups := by
  constructor
  · intro contract
    rw [implementationsFor_declareAll, ← Distinct.insertAll_nil]
    rfl
  · rw [contracts_declareAll empty read.implementations_ne_nil, ← Distinct.insertAll_nil]
    rfl

/-- Registration texts are read exactly by their grammar. -/
theorem parse_by_grammar (text : String) :
    ∃ lines, (∀ others, Grouped 1 (physicalLines text.toList) others ↔ others = lines) ∧
      ((∃ registrations, parse text = .ok registrations) ↔
        ∀ line ∈ lines, ∃ declared, Declares line.content declared) ∧
      (∀ registrations, parse text = .ok registrations →
        ∃ declared, Declared lines declared ∧
          (∀ contract, registrations.implementationsFor contract =
            (namedFor contract declared).eraseDups) ∧
          registrations.contracts = (declared.map Declaration.contract).eraseDups ∧
          registrations.size = (declared.map Declaration.contract).eraseDups.length) ∧
      ∀ rejection, parse text = .error rejection ↔ FirstFaulty lines rejection := by
  refine ⟨logicalLines text.toList, ?_, ?_, ?_, ?_⟩
  · intro others
    rw [grouped_iff, logicalLines_eq]
    exact eq_comm
  · rw [← exists_declared_iff]
    constructor
    · rintro ⟨registrations, success⟩
      obtain ⟨declared, read, -⟩ := declareLines_eq_ok_iff.mp success
      exact ⟨declared, read⟩
    · rintro ⟨declared, read⟩
      exact ⟨empty.declareAll declared, declareLines_of_declared read empty⟩
  · intro registrations success
    obtain ⟨declared, read, rfl⟩ := declareLines_eq_ok_iff.mp success
    obtain ⟨named, listed⟩ := lookups_of_declared read
    exact ⟨declared, read, named, listed, by rw [size_eq, listed]⟩
  · intro rejection
    exact declareLines_eq_error_iff

end Registrations
end FragmentAssembly
