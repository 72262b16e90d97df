import FragmentAssembly.Proofs.Name.Segments
import FragmentAssembly.Registrations.Parser

/-!
# What a logical line declares

A logical line falls apart at its first equals sign into the name of a contract and names of
implementations. It declares them, or one of four things is wrong with it.
-/

namespace FragmentAssembly
namespace Registrations

/-- In front of the first equals sign stands the name of a contract. Behind it stand names with commas
between them, among which empty ones do not count. -/
def FallsApart (content : List Char) (contract : String) (names : List String) : Prop :=
  ∃ key value, content = key ++ '=' :: value ∧ '=' ∉ key ∧ contract.toList = Text.trim key ∧
    names.map String.toList = ((value.splitOn ',').map Text.trim).filter (· ≠ [])

/-- A logical line is well-formed, and this is what it declares. -/
structure Declares (content : List Char) (declared : Declaration) : Prop where
  /-- The parts of the line. -/
  parts : FallsApart content declared.contract declared.implementations
  /-- The contract has a qualified name. -/
  contract_qualified : Name.Qualified declared.contract.toList
  /-- Some implementation is named. -/
  implementations_ne_nil : declared.implementations ≠ []
  /-- All implementations have qualified names. -/
  implementations_qualified : ∀ name ∈ declared.implementations, Name.Qualified name.toList

/-- A logical line is malformed, and this is the first thing that is wrong with it. -/
inductive Faulty (content : List Char) : Malformation → Prop where
  | noEquals (absent : '=' ∉ content) : Faulty content (.noEquals (String.ofList content))
  | unqualifiedContract {contract : String} {names : List String}
      (parts : FallsApart content contract names) (unqualified : ¬Name.Qualified contract.toList) :
      Faulty content (.unqualifiedContract contract)
  | noImplementation {contract : String} (parts : FallsApart content contract [])
      (qualified : Name.Qualified contract.toList) : Faulty content (.noImplementation contract)
  | unqualifiedImplementation {contract name : String} {front back : List String}
      (parts : FallsApart content contract (front ++ name :: back))
      (qualified : Name.Qualified contract.toList)
      (before : ∀ other ∈ front, Name.Qualified other.toList)
      (unqualified : ¬Name.Qualified name.toList) : Faulty content (.unqualifiedImplementation name)

theorem namesIn_eq (list : List Char) :
    namesIn list = ((list.splitOn ',').map Text.trim).filter (· ≠ []) := by
  rw [namesIn, Text.pieces_eq_splitOn]
  apply List.filter_congr
  intro name _
  cases name with
  | nil => rfl
  | cons first rest => rfl

theorem exists_parts {content : List Char} (present : '=' ∈ content) :
    ∃ contract names, FallsApart content contract names := by
  obtain ⟨key, value, split, first⟩ := List.eq_append_cons_of_mem present
  refine ⟨String.ofList (Text.trim key), (namesIn value).map String.ofList, key, value, split, first,
    String.toList_ofList, ?_⟩
  rw [← namesIn_eq, List.map_map]
  simp

theorem declaration_of_parts {content : List Char} {contract : String} {names : List String}
    (parts : FallsApart content contract names) :
    declaration content =
      if !Name.isQualified contract.toList then
        .error (.unqualifiedContract contract)
      else if names.isEmpty then
        .error (.noImplementation contract)
      else
        match names.find? (!Name.isQualified ·.toList) with
        | some name => .error (.unqualifiedImplementation name)
        | none => .ok ⟨contract, names⟩ := by
  obtain ⟨key, value, split, first, spelled, listed⟩ := parts
  have cut := Text.cutAtFirst_eq_some_iff.mpr ⟨split, first⟩
  rw [← namesIn_eq] at listed
  simp only [declaration, cut, ← spelled, ← listed, String.ofList_toList, List.isEmpty_map,
    List.find?_map, List.map_map]
  cases searched : names.find? ((!Name.isQualified ·) ∘ String.toList) with
  | none =>
      have whole : names.map (String.ofList ∘ String.toList) = names := by simp
      rw [Function.comp_def] at searched
      simp only [searched, whole, Option.map_none]
  | some name =>
      rw [Function.comp_def] at searched
      simp only [searched, Option.map_some, String.ofList_toList]

theorem declaration_of_declares {content : List Char} {declared : Declaration}
    (declares : Declares content declared) : declaration content = .ok declared := by
  have qualified := Name.isQualified_iff.mpr declares.contract_qualified
  have none : declared.implementations.find? (!Name.isQualified ·.toList) = none := by
    rw [List.find?_eq_none]
    intro name listed
    simpa using Name.isQualified_iff.mpr (declares.implementations_qualified name listed)
  rw [declaration_of_parts declares.parts, if_neg (by simp [qualified]),
    if_neg (by simpa using declares.implementations_ne_nil), none]

theorem declaration_of_faulty {content : List Char} {malformation : Malformation}
    (faulty : Faulty content malformation) : declaration content = .error malformation := by
  cases faulty with
  | noEquals absent => rw [declaration, Text.cutAtFirst_eq_none_iff.mpr absent]
  | unqualifiedContract parts unqualified =>
      rw [declaration_of_parts parts, if_pos (by simp [Name.isQualified_eq_false_iff.mpr unqualified])]
  | noImplementation parts qualified =>
      rw [declaration_of_parts parts, if_neg (by simp [Name.isQualified_iff.mpr qualified]),
        if_pos List.isEmpty_nil]
  | @unqualifiedImplementation contract name front back parts qualified before unqualified =>
      have found : (front ++ name :: back).find? (!Name.isQualified ·.toList) = some name := by
        rw [List.find?_eq_some_iff_append]
        refine ⟨by simp [Name.isQualified_eq_false_iff.mpr unqualified], front, back, rfl, ?_⟩
        intro other member
        simpa using Name.isQualified_iff.mpr (before other member)
      rw [declaration_of_parts parts, if_neg (by simp [Name.isQualified_iff.mpr qualified]),
        if_neg (by simp), found]

theorem declares_or_faulty (content : List Char) :
    (∃ declared, Declares content declared) ∨ ∃ malformation, Faulty content malformation := by
  by_cases present : '=' ∈ content
  · obtain ⟨contract, names, parts⟩ := exists_parts present
    by_cases qualified : Name.Qualified contract.toList
    · cases names with
      | nil => exact .inr ⟨_, .noImplementation parts qualified⟩
      | cons first others =>
          cases searched : (first :: others).find? (!Name.isQualified ·.toList) with
          | none =>
              refine .inl ⟨⟨contract, first :: others⟩, parts, qualified, by simp, ?_⟩
              intro name listed
              have good := List.find?_eq_none.mp searched name listed
              exact Name.isQualified_iff.mp (by simpa using good)
          | some name =>
              obtain ⟨bad, front, back, split, before⟩ := List.find?_eq_some_iff_append.mp searched
              rw [split] at parts
              refine .inr ⟨_, .unqualifiedImplementation parts qualified ?_ ?_⟩
              · intro other member
                exact Name.isQualified_iff.mp (by simpa using before other member)
              · exact Name.isQualified_eq_false_iff.mp (by simpa using bad)
    · exact .inr ⟨_, .unqualifiedContract parts qualified⟩
  · exact .inr ⟨_, .noEquals present⟩

theorem declaration_eq_ok_iff {content : List Char} {declared : Declaration} :
    declaration content = .ok declared ↔ Declares content declared := by
  constructor
  · intro read
    rcases declares_or_faulty content with ⟨other, declares⟩ | ⟨malformation, faulty⟩
    · rw [declaration_of_declares declares] at read
      cases read
      exact declares
    · rw [declaration_of_faulty faulty] at read
      cases read
  · exact declaration_of_declares

end Registrations
end FragmentAssembly
