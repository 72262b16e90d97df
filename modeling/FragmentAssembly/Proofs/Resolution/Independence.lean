import Mathlib.Data.List.Basic
import Mathlib.Data.List.Find
import FragmentAssembly.Proofs.Resolution.Selection

/-!
# Resolution and the order of registration

What is found for a contract depends on the candidates that suit it and on the registered types that are
listed. Other candidates have no part in it, and neither has the order of registration, unless two suitable
candidates share the expected identity: the one that was registered first is chosen then.
-/

namespace FragmentAssembly

variable {σ : Type}

namespace Catalog

theorem nodup_candidates (catalog : Catalog σ) : catalog.candidates.Nodup :=
  List.Pairwise.of_map Candidate.typeName (fun _ _ different same => different (congrArg _ same))
    catalog.nodup

theorem get?_eq_some_iff {catalog : Catalog σ} {typeName : String} {candidate : Candidate σ} :
    catalog.get? typeName = some candidate ↔
      candidate ∈ catalog.candidates ∧ candidate.typeName = typeName := by
  constructor
  · intro found
    exact ⟨List.mem_of_find?_eq_some found, by simpa using List.find?_some found⟩
  · rintro ⟨listed, rfl⟩
    exact get?_typeName listed

/-- The candidates of a catalog, registered in another order. -/
def reorder (catalog : Catalog σ) {candidates : List (Candidate σ)}
    (perm : candidates.Perm catalog.candidates) : Catalog σ where
  candidates := candidates
  nodup := (perm.map Candidate.typeName).nodup_iff.mpr catalog.nodup

/-- Two catalogs list the same candidates among those that matter for a contract. -/
structure AgreesOn (left right : Catalog σ) (registrations : Registrations) (contract : Contract)
    (scope : SearchScope) (interface : Interface) : Prop where
  /-- They list the same suitable candidates. -/
  suitable : ∀ candidate : Candidate σ, candidate.Suits contract scope interface →
    (candidate ∈ left.candidates ↔ candidate ∈ right.candidates)
  /-- They list the same candidates of registered types. -/
  registered : ∀ candidate : Candidate σ,
    candidate.typeName ∈ registrations.implementationsFor contract.name →
      (candidate ∈ left.candidates ↔ candidate ∈ right.candidates)

variable {left right : Catalog σ} {registrations : Registrations} {contract : Contract}
  {scope : SearchScope} {interface : Interface}

theorem agreesOn_of_perm (perm : left.candidates.Perm right.candidates) :
    left.AgreesOn right registrations contract scope interface where
  suitable _ _ := perm.mem_iff
  registered _ _ := perm.mem_iff

theorem AgreesOn.get?_eq (agrees : left.AgreesOn right registrations contract scope interface)
    {typeName : String} (registered : typeName ∈ registrations.implementationsFor contract.name) :
    left.get? typeName = right.get? typeName := by
  apply Option.ext
  intro candidate
  rw [get?_eq_some_iff, get?_eq_some_iff]
  constructor
  · rintro ⟨listed, rfl⟩
    exact ⟨(agrees.registered candidate registered).mp listed, rfl⟩
  · rintro ⟨listed, rfl⟩
    exact ⟨(agrees.registered candidate registered).mpr listed, rfl⟩

theorem AgreesOn.perm_suitable
    (agrees : left.AgreesOn right registrations contract scope interface) :
    (Resolver.suitable ⟨left, registrations⟩ contract scope interface).Perm
      (Resolver.suitable ⟨right, registrations⟩ contract scope interface) := by
  apply (List.perm_ext_iff_of_nodup (left.nodup_candidates.filter _)
    (right.nodup_candidates.filter _)).mpr
  intro candidate
  rw [List.mem_filter, List.mem_filter, decide_eq_true_eq]
  exact and_congr_left (agrees.suitable candidate)

end Catalog

namespace Resolver

/-- At most one suitable candidate has the expected identity. -/
def Unambiguous (resolver : Resolver σ) (contract : Contract) (scope : SearchScope)
    (interface : Interface) : Prop :=
  ∀ first ∈ resolver.suitable contract scope interface,
    ∀ second ∈ resolver.suitable contract scope interface,
      first.identity = expectedIdentity contract scope interface →
        second.identity = expectedIdentity contract scope interface → first = second

variable {catalog other : Catalog σ} {registrations : Registrations} {contract : Contract}
  {scope : SearchScope} {interface : Interface}

theorem findSome?_get?_of_agreesOn
    (agrees : catalog.AgreesOn other registrations contract scope interface) :
    (registrations.implementationsFor contract.name).findSome? catalog.get? =
      (registrations.implementationsFor contract.name).findSome? other.get? := by
  rw [← List.head?_filterMap, ← List.head?_filterMap]
  congr 1
  exact List.filterMap_congr fun typeName registered => agrees.get?_eq registered

/-- Catalogs that agree on a contract give the same candidate for it. -/
theorem candidate?_search_of_agreesOn
    (agrees : catalog.AgreesOn other registrations contract scope interface)
    (unambiguous : Unambiguous ⟨catalog, registrations⟩ contract scope interface) :
    (search ⟨catalog, registrations⟩ contract scope interface).candidate? =
      (search ⟨other, registrations⟩ contract scope interface).candidate? := by
  have perm := agrees.perm_suitable
  rcases Nat.lt_trichotomy (suitable ⟨catalog, registrations⟩ contract scope interface).length 1 with
    none | one | several
  · have nothing : suitable ⟨catalog, registrations⟩ contract scope interface = [] :=
      List.length_eq_zero_iff.mp (by omega)
    have nowhere := (nothing ▸ perm).nil_eq.symm
    rw [candidate?_search_of_none nothing, candidate?_search_of_none nowhere]
    exact findSome?_get?_of_agreesOn agrees
  · obtain ⟨candidate, only⟩ := List.length_eq_one_iff.mp one
    have again := List.perm_singleton.mp (only ▸ perm.symm)
    rw [search_of_suitable_single only, search_of_suitable_single again]
  · rw [candidate?_search_of_several several,
      candidate?_search_of_several (perm.length_eq ▸ several)]
    apply List.find?_eq_find?_of_perm perm
    rintro first ⟨suits, expected⟩ second ⟨other, same⟩
    exact unambiguous first suits second other (of_decide_eq_true expected) (of_decide_eq_true same)

/-- The first suitable candidate is chosen if it has the expected identity. -/
theorem candidate?_search_of_front {resolver : Resolver σ} {candidate : Candidate σ}
    {others : List (Candidate σ)}
    (front : resolver.suitable contract scope interface = candidate :: others)
    (expected : candidate.identity = expectedIdentity contract scope interface) :
    (resolver.search contract scope interface).candidate? = some candidate := by
  cases others with
  | nil =>
      rw [search_of_suitable_single front]
      rfl
  | cons second others =>
      have several : 2 ≤ (resolver.suitable contract scope interface).length := by simp [front]
      rw [candidate?_search_of_several several, front]
      exact List.find?_cons_of_pos (decide_eq_true expected)

/-- A suitable candidate that is registered before all others is the first suitable one. -/
theorem exists_reordered {candidate : Candidate σ}
    (suits : candidate ∈ suitable ⟨catalog, registrations⟩ contract scope interface) :
    ∃ other : Catalog σ, other.candidates.Perm catalog.candidates ∧
      ∃ others, suitable ⟨other, registrations⟩ contract scope interface = candidate :: others := by
  obtain ⟨listed, named⟩ := List.mem_filter.mp suits
  obtain ⟨front, back, split⟩ := List.append_of_mem listed
  have perm : (candidate :: (front ++ back)).Perm catalog.candidates := by
    rw [split]
    exact List.perm_middle.symm
  exact ⟨catalog.reorder perm, perm, _, List.filter_cons_of_pos named⟩

variable (catalog registrations contract scope interface)

/-- Resolution gives the same implementation type over all catalogs that agree on a contract, in whatever
order and with whatever other candidates, exactly if no two suitable candidates share the expected
identity. -/
theorem unambiguous_iff_independent :
    Unambiguous ⟨catalog, registrations⟩ contract scope interface ↔
      ∀ other : Catalog σ, catalog.AgreesOn other registrations contract scope interface →
        ∀ cell number,
          (resolve ⟨catalog, registrations⟩ contract scope interface cell).implementationType? =
            (resolve ⟨other, registrations⟩ contract scope interface number).implementationType? := by
  simp only [resolve, Resolution.implementationType?_fragment]
  constructor
  · intro unambiguous other agrees _ _
    rw [candidate?_search_of_agreesOn agrees unambiguous]
  · intro independent first suits second others expected same
    have chosen : ∀ candidate ∈ suitable ⟨catalog, registrations⟩ contract scope interface,
        candidate.identity = expectedIdentity contract scope interface →
          (search ⟨catalog, registrations⟩ contract scope interface).candidate?.map
            Candidate.typeName = some candidate.typeName := by
      intro candidate member told
      obtain ⟨other, perm, behind, front⟩ := exists_reordered member
      rw [independent other (Catalog.agreesOn_of_perm perm.symm) 0 0,
        candidate?_search_of_front front told, Option.map_some]
    have types : first.typeName = second.typeName :=
      Option.some.inj ((chosen first suits expected).symm.trans (chosen second others same))
    have found : catalog.get? second.typeName = some first :=
      Catalog.get?_eq_some_iff.mpr ⟨(List.mem_filter.mp suits).1, types⟩
    rw [Catalog.get?_typeName (List.mem_filter.mp others).1] at found
    exact (Option.some.inj found).symm

/-- Two types that suit the same contract; the second one has an identity of its own. -/
def rivals : Catalog Unit where
  candidates := [⟨"p.x.SearchImpl", none, .abort ""⟩, ⟨"p.y.SearchImpl", some "other", .abort ""⟩]
  nodup := by simp

/-- The same types the other way round, behind one that suits another contract. -/
def rivalsReversed : Catalog Unit where
  candidates :=
    [⟨"p.ClockImpl", none, .abort ""⟩, ⟨"p.y.SearchImpl", some "other", .abort ""⟩,
      ⟨"p.x.SearchImpl", none, .abort ""⟩]
  nodup := by simp

theorem unambiguous_iff_independent_rivals :
    let interface := Interface.named "p.Repository" "" ""
    let scope := SearchScope.ofPackages ["p"]
    Unambiguous ⟨rivals, .empty⟩ (.named "p.Search") scope interface ∧
      rivals.AgreesOn rivalsReversed .empty (.named "p.Search") scope interface ∧
      (resolve ⟨rivals, .empty⟩ (.named "p.Search") scope interface 0).implementationType? =
        some "p.x.SearchImpl" ∧
      (resolve ⟨rivalsReversed, .empty⟩ (.named "p.Search") scope interface 7).implementationType? =
        some "p.x.SearchImpl" := by
  intro interface scope
  have expected : ∀ candidate ∈ rivals.candidates,
      candidate.identity = expectedIdentity (.named "p.Search") scope interface →
        candidate = ⟨"p.x.SearchImpl", none, .abort ""⟩ := by
    intro candidate listed told
    rcases List.mem_cons.mp listed with rfl | last
    · rfl
    · rw [List.mem_singleton.mp last] at told
      exact absurd told (by decide +kernel)
  have unambiguous : Unambiguous ⟨rivals, .empty⟩ (.named "p.Search") scope interface := by
    intro first suits second others told same
    rw [expected first (List.mem_filter.mp suits).1 told,
      expected second (List.mem_filter.mp others).1 same]
  have agrees : rivals.AgreesOn rivalsReversed .empty (.named "p.Search") scope interface := by
    refine ⟨?_, fun _ registered => (List.not_mem_nil registered).elim⟩
    intro candidate suits
    have different : candidate ≠ ⟨"p.ClockImpl", none, .abort ""⟩ := by
      rintro rfl
      exact absurd suits (by decide +kernel)
    simp [rivals, rivalsReversed, different, or_comm]
  have type : (resolve ⟨rivals, .empty⟩ (.named "p.Search") scope interface 0).implementationType? =
      some "p.x.SearchImpl" := by
    decide +kernel
  have independent := (unambiguous_iff_independent rivals .empty (.named "p.Search") scope
    interface).mp unambiguous rivalsReversed agrees 0 7
  exact ⟨unambiguous, agrees, type, independent.symm.trans type⟩

end Resolver
end FragmentAssembly
