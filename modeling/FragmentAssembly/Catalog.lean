import FragmentAssembly.Fragment.Basic

/-!
# Catalogs of candidates

A candidate is an implementation type that is known to the application. A catalog lists candidates in
order of registration and never lists a type twice.
-/

namespace FragmentAssembly

variable {σ : Type}

/-- A known implementation type. -/
structure Candidate (σ : Type) where
  /-- Dotted name of the type. -/
  typeName : String
  /-- Identity that replaces the one derived from the name. -/
  explicitIdentity : Option String
  /-- How an instance is made. -/
  factory : Factory σ

namespace Candidate

/-- The name without its package. -/
def simpleName (candidate : Candidate σ) : String :=
  Name.simple candidate.typeName

/-- The package of the name. -/
def package (candidate : Candidate σ) : String :=
  Name.package candidate.typeName

/-- The identity: the explicit one, or else the simple name in lower camel case. -/
def identity (candidate : Candidate σ) : String :=
  candidate.explicitIdentity.getD (Name.lowerCamel candidate.simpleName)

/-- The diagnostic form. -/
def diagnostic (candidate : Candidate σ) : String :=
  "ImplementationCandidate \x7b type_name: " ++ Text.quoted candidate.typeName ++ ", identity: " ++
    Text.quoted candidate.identity ++ " \x7d"

/-- The fragment that the candidate implements, with its instance in a cell of its own. -/
def bind (candidate : Candidate σ) (contract : Contract) (cell : Nat) : Fragment σ :=
  .deferred contract { typeName := candidate.typeName, factory := candidate.factory, cell }

end Candidate

/-- The known implementation types. -/
structure Catalog (σ : Type) where
  /-- The candidates, in order of registration. -/
  candidates : List (Candidate σ)
  /-- No type is listed twice. -/
  nodup : (candidates.map Candidate.typeName).Nodup

namespace Catalog

/-- A catalog without candidates. -/
def empty : Catalog σ := ⟨[], by simp⟩

/-- The candidate of a type. -/
def get? (catalog : Catalog σ) (typeName : String) : Option (Candidate σ) :=
  catalog.candidates.find? fun candidate => candidate.typeName = typeName

/-- Whether a type is listed. -/
def contains (catalog : Catalog σ) (typeName : String) : Bool :=
  (catalog.candidates.map Candidate.typeName).contains typeName

/-- Add a candidate; its type must not be listed. -/
def register (catalog : Catalog σ) (candidate : Candidate σ) : Except Error (Catalog σ) :=
  if listed : catalog.contains candidate.typeName = true then
    .error (.alreadyRegistered candidate.typeName)
  else
    .ok
      { candidates := catalog.candidates ++ [candidate]
        nodup := by
          rw [List.map_append, List.map_singleton, List.nodup_append]
          refine ⟨catalog.nodup, by simp, ?_⟩
          intro left member right last
          rw [List.mem_singleton] at last
          intro same
          apply listed
          simpa [contains] using List.mem_map.mp (last ▸ same ▸ member) }

/-- Add candidates in order; the first one whose type is listed is the error. -/
def registerAll (catalog : Catalog σ) (candidates : List (Candidate σ)) :
    Except Error (Catalog σ) :=
  candidates.foldlM register catalog

/-- The number of candidates. -/
def size (catalog : Catalog σ) : Nat :=
  catalog.candidates.length

end Catalog
end FragmentAssembly
