import FragmentAssembly.Proofs.Resolution.Selection

/-!
# Ties between candidates

Several suitable candidates are told apart by identity. The identity that is expected is the contract's
simple name in lower camel case with the postfix, while a candidate's own one is its whole simple name
in lower camel case. These agree unless the postfix changes how the name begins, which takes a contract
name of at most one character.
-/

namespace FragmentAssembly

variable {σ : Type}

namespace Name

/-- A suffix does not change how a name begins in lower camel case. A capital behind a single capital
makes an acronym of it, and behind nothing the suffix is the beginning. -/
def KeepsStart (name suffix : List Char) : Prop :=
  match name with
  | [] => decapitalize suffix = suffix
  | [first] => startsWithAcronym (first :: suffix) = true → Text.lowerCase first = [first]
  | _ :: _ :: _ => True

instance (name suffix : List Char) : Decidable (KeepsStart name suffix) :=
  match name with
  | [] => inferInstanceAs (Decidable (decapitalize suffix = suffix))
  | [first] => inferInstanceAs
      (Decidable (startsWithAcronym (first :: suffix) = true → Text.lowerCase first = [first]))
  | _ :: _ :: _ => inferInstanceAs (Decidable True)

theorem decapitalize_cons (first : Char) (rest : List Char) :
    decapitalize (first :: rest) =
      if startsWithAcronym (first :: rest) then first :: rest else Text.lowerCase first ++ rest :=
  rfl

theorem decapitalize_append_iff (name suffix : List Char) :
    decapitalize (name ++ suffix) = decapitalize name ++ suffix ↔ KeepsStart name suffix := by
  match name with
  | [] => rfl
  | [first] =>
      have alone : decapitalize [first] = Text.lowerCase first := by
        simp [decapitalize, startsWithAcronym]
      rw [alone, List.singleton_append, decapitalize_cons, KeepsStart]
      split
      · rename_i acronym
        rw [← List.singleton_append, List.append_cancel_right_eq]
        exact ⟨fun same _ => same.symm, fun same => (same acronym).symm⟩
      · rename_i plain
        exact ⟨fun _ acronym => absurd acronym plain, fun _ => rfl⟩
  | first :: second :: rest =>
      have seen : startsWithAcronym (first :: second :: (rest ++ suffix)) =
          startsWithAcronym (first :: second :: rest) := rfl
      rw [List.cons_append, List.cons_append, decapitalize_cons, decapitalize_cons, seen]
      refine iff_of_true ?_ trivial
      split
      · rfl
      · rw [List.append_assoc, List.cons_append]

theorem lowerCamel_append_iff (name suffix : String) :
    lowerCamel (name ++ suffix) = lowerCamel name ++ suffix ↔
      KeepsStart name.toList suffix.toList := by
  rw [← decapitalize_append_iff, ← String.toList_inj]
  simp only [lowerCamel, String.toList_append, String.toList_ofList]

end Name

namespace Resolver

variable {resolver : Resolver σ} {contract : Contract} {scope : SearchScope} {interface : Interface}

theorem simpleName_of_mem_suitable {candidate : Candidate σ}
    (suits : candidate ∈ resolver.suitable contract scope interface) :
    candidate.simpleName = contract.simpleName ++ scope.implementationPostfix := by
  have found := of_decide_eq_true (List.mem_filter.mp suits).2
  rw [candidate.suits_iff, Bool.and_eq_true, decide_eq_true_eq] at found
  exact found.1

theorem isImplemented_of_several (several : 2 ≤ (resolver.suitable contract scope interface).length)
    (cell : Nat) :
    (resolver.resolve contract scope interface cell).isImplemented = true ↔
      ∃ candidate ∈ resolver.suitable contract scope interface,
        candidate.identity = expectedIdentity contract scope interface := by
  rw [resolve, Resolution.isImplemented_fragment, candidate?_search_of_several several,
    List.find?_isSome]
  simp only [decide_eq_true_eq]

/-- Of several suitable candidates one without an explicit identity breaks the tie, because its default
identity is the one that is expected, unless the postfix changes how the contract's name begins. In that
case it takes a candidate with the expected identity as its explicit one. -/
theorem default_identity_breaks_ties (conventional : interface.identityOverride = none)
    (several : 2 ≤ (resolver.suitable contract scope interface).length) {candidate : Candidate σ}
    (suits : candidate ∈ resolver.suitable contract scope interface)
    (implicit : candidate.explicitIdentity = none) (cell : Nat) :
    let expected := Name.lowerCamel contract.simpleName ++ scope.implementationPostfix
    let regular :=
      Name.KeepsStart contract.simpleName.toList scope.implementationPostfix.toList
    (candidate.identity = expected ↔ regular) ∧
      ((resolver.resolve contract scope interface cell).isImplemented = true ↔
        regular ∨ ∃ other ∈ resolver.suitable contract scope interface,
          other.explicitIdentity = some expected) := by
  intro expected regular
  have default : ∀ other ∈ resolver.suitable contract scope interface,
      other.explicitIdentity = none → (other.identity = expected ↔ regular) := by
    intro other named absent
    rw [Candidate.identity, absent, Option.getD_none, simpleName_of_mem_suitable named]
    exact Name.lowerCamel_append_iff _ _
  have wanted : expectedIdentity contract scope interface = expected := by
    rw [expectedIdentity, conventional, Option.getD_none]
  refine ⟨default candidate suits implicit, ?_⟩
  rw [isImplemented_of_several several, wanted]
  constructor
  · rintro ⟨other, named, same⟩
    cases identity : other.explicitIdentity with
    | none => exact .inl ((default other named identity).mp same)
    | some explicit =>
        rw [Candidate.identity, identity, Option.getD_some] at same
        exact .inr ⟨other, named, by rw [identity, same]⟩
  · rintro (agrees | ⟨other, named, same⟩)
    · exact ⟨candidate, suits, (default candidate suits implicit).mpr agrees⟩
    · exact ⟨other, named, by rw [Candidate.identity, same, Option.getD_some]⟩

/-- Two types, the second one under an identity of its own. -/
def twins (first second : String) (different : first ≠ second) : Resolver Unit where
  catalog :=
    { candidates :=
        [{ typeName := first, explicitIdentity := none, factory := .abort "" },
          { typeName := second, explicitIdentity := some "other", factory := .abort "" }]
      nodup := by simpa using different }
  registrations := .empty

theorem default_identity_breaks_ties_search :
    let resolver := twins "p.x.SearchImpl" "p.y.SearchImpl" (by decide)
    let interface := Interface.named "p.Repository" "" ""
    2 ≤ (resolver.suitable (.named "p.Search") (.ofPackages ["p"]) interface).length ∧
      (resolver.resolve (.named "p.Search") (.ofPackages ["p"]) interface 0).isImplemented = true := by
  intro resolver interface
  have several :
      2 ≤ (resolver.suitable (.named "p.Search") (.ofPackages ["p"]) interface).length := by
    decide +kernel
  have suits : ⟨"p.x.SearchImpl", none, .abort ""⟩ ∈
      resolver.suitable (.named "p.Search") (.ofPackages ["p"]) interface :=
    List.mem_filter.mpr ⟨List.mem_cons_self, by decide +kernel⟩
  have regular : Name.KeepsStart (Contract.named "p.Search").simpleName.toList
      (SearchScope.ofPackages ["p"]).implementationPostfix.toList := by
    decide +kernel
  obtain ⟨-, broken⟩ := default_identity_breaks_ties rfl several suits rfl 0
  exact ⟨several, broken.mpr (.inl regular)⟩

/-- A contract whose name is one capital stays open, although a candidate has its default identity:
that one is spelled with the capital, and the expected one is not. -/
theorem single_capital_stays_open :
    let resolver := twins "p.x.AImpl" "p.y.AImpl" (by decide)
    let interface := Interface.named "p.Repository" "" ""
    interface.identityOverride = none ∧
      (resolver.suitable (.named "p.A") (.ofPackages ["p"]) interface).map
          (fun candidate => (candidate.typeName, candidate.explicitIdentity, candidate.identity)) =
        [("p.x.AImpl", none, "AImpl"), ("p.y.AImpl", some "other", "other")] ∧
      expectedIdentity (.named "p.A") (.ofPackages ["p"]) interface = "aImpl" ∧
      (resolver.resolve (.named "p.A") (.ofPackages ["p"]) interface 0).isImplemented = false := by
  decide +kernel

end Resolver
end FragmentAssembly
