import FragmentAssembly.Proofs.Json.Reading

/-!
# Compact JSON text by the grammar

A value that is made of texts, literals of numbers, lists and records is written as a text that spells
it. The reader therefore takes the written text back to the value.
-/

namespace FragmentAssembly
namespace Json

/-- Values whose numbers are literals and whose strings are texts. -/
inductive Plain : Json → Prop where
  | null : Plain .null
  | boolean (value : Bool) : Plain (.boolean value)
  | number {literal : List Char} (number : IsNumber literal) : Plain (.number literal)
  | text (value : String) : Plain (.text value)
  | array {items : List Json} (each : ∀ item ∈ items, Plain item) : Plain (.array items)
  | record {members : List (String × Json)} (each : ∀ member ∈ members, Plain member.2) :
      Plain (.record members)

/-! ## Values of the data model -/

theorem plain_texts (values : List String) : Plain (.texts values) := by
  refine .array ?_
  intro item member
  obtain ⟨value, -, rfl⟩ := List.mem_map.mp member
  exact .text value

theorem plain_optionalText (value : Option String) : Plain (.optionalText value) := by
  cases value with
  | none => exact .null
  | some value => exact .text value

/-! ## Writing -/

theorem Spells.bare {text : List Char} {json : Json} (spelled : Spells text (.value json)) :
    Spells text (.element json) := by
  have element := Spells.element blanks_nil spelled blanks_nil
  rwa [List.nil_append, List.append_nil] at element

theorem spells_writeContent (value : String) :
    Spells (writeContent (Content.ofString value)) (.value (.text value)) := by
  rw [writeContent, List.cons_append]
  exact .string (spells_writeText value)

theorem spellsKey_writeContent (value : String) :
    SpellsKey (writeContent (Content.ofString value) ++ [':']) (Content.ofString value) := by
  have key := SpellsKey.intro blanks_nil (spells_writeText value) blanks_nil
  simpa [writeContent] using key

theorem spells_writeItems {items : List Json} (some : items ≠ [])
    (each : ∀ item ∈ items, Spells item.write (.value item)) :
    Spells (writeItems items) (.items items) := by
  induction items with
  | nil => exact absurd rfl some
  | cons item others ih =>
      have first : Spells item.write (.element item) := (each item List.mem_cons_self).bare
      cases others with
      | nil => exact .lastItem first
      | cons second rest =>
          have behind := ih (List.cons_ne_nil second rest)
            fun other member => each other (List.mem_cons_of_mem item member)
          exact .item first behind

theorem spells_writeMembers {members : List (String × Json)} (some : members ≠ [])
    (each : ∀ member ∈ members, Spells member.2.write (.value member.2)) :
    Spells (writeMembers (members.map fun (key, value) => (Content.ofString key, value)))
      (.members (members.map fun (key, value) => (Content.ofString key, value))) := by
  induction members with
  | nil => exact absurd rfl some
  | cons member others ih =>
      obtain ⟨key, value⟩ := member
      have named := spellsKey_writeContent key
      have first : Spells value.write (.element value) := (each (key, value) List.mem_cons_self).bare
      cases others with
      | nil => simpa [writeMembers] using Spells.lastMember named first
      | cons second rest =>
          have behind := ih (List.cons_ne_nil second rest)
            fun other member => each other (List.mem_cons_of_mem (key, value) member)
          simpa [writeMembers] using Spells.member named first behind

theorem Plain.spells_write {json : Json} (plain : Plain json) : Spells json.write (.value json) := by
  induction plain with
  | null => exact .null
  | boolean value =>
      cases value with
      | false => exact .falsity
      | true => exact .truth
  | number number => rw [write]; exact .number number
  | text value => exact spells_writeContent value
  | @array items each ih =>
      rw [write, List.cons_append]
      by_cases some : items = []
      · rw [some]
        exact .emptyArray blanks_nil
      · exact .array (spells_writeItems some ih)
  | @record members each ih =>
      rw [Json.record, write, List.cons_append]
      by_cases some : members = []
      · rw [some]
        exact .emptyObject blanks_nil
      · exact .object (spells_writeMembers some ih)

/-- The compact text of a value spells it. -/
theorem Plain.denotes_compact {json : Json} (plain : Plain json) : Denotes json.compact json := by
  rw [Denotes, compact, String.toList_ofList]
  exact plain.spells_write.bare

theorem Plain.read?_compact {json : Json} (plain : Plain json) : read? json.compact = some json :=
  read?_eq_some_iff.mpr plain.denotes_compact

end Json
end FragmentAssembly
