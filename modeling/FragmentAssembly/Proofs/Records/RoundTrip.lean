import FragmentAssembly.Proofs.Json.Fields
import FragmentAssembly.Proofs.Json.Writing
import FragmentAssembly.Records

/-!
# Records written and read

A signature, a contract, an interface and a configuration are each read back, from the text that is
written for them, as the value that they were: every field is the same, and lists are in the same
order. Written again, they give the same text.
-/

namespace FragmentAssembly

/-! ## Signatures -/

namespace Signature

theorem plain_toJson (signature : Signature) : signature.toJson.Plain := by
  refine .record ?_
  simp only [List.forall_mem_cons]
  exact ⟨.text _, Json.plain_texts _, by simp⟩

theorem ofJson?_toJson (signature : Signature) : ofJson? signature.toJson = some signature := by
  have fields : signature.toJson.fields? fieldNames =
      some [some (.text signature.name), some (.texts signature.parameterTypes)] :=
    Json.fields?_record_self rfl (by decide)
  simp [ofJson?, fields, Json.required]

end Signature

/-! ## Contracts -/

namespace Contract

theorem plain_toJson (contract : Contract) : contract.toJson.Plain := by
  refine .record ?_
  simp only [List.forall_mem_cons]
  refine ⟨.text _, Json.plain_texts _, .array ?_, by simp⟩
  intro item among
  obtain ⟨method, -, rfl⟩ := List.mem_map.mp among
  exact method.plain_toJson

/-- The methods of a contract are distinct, so that none is dropped in reading. -/
theorem ofJson?_toJson (contract : Contract) : ofJson? contract.toJson = some contract := by
  have fields : contract.toJson.fields? fieldNames =
      some [some (.text contract.name), some (.texts contract.typeParameters),
        some (.array (contract.methods.map Signature.toJson))] :=
    Json.fields?_record_self rfl (by decide)
  have methods : (Json.array (contract.methods.map Signature.toJson)).list? Signature.ofJson? =
      some contract.methods :=
    Json.mapM_map_of_reads Signature.ofJson?_toJson contract.methods
  have same : ((named contract.name).withTypeParameters contract.typeParameters).withMethods
      contract.methods = contract := by
    have kept : Distinct.insertAll [] contract.methods = contract.methods :=
      Distinct.insertAll_of_nodup contract.methods_nodup
    obtain ⟨name, typeParameters, methods, nodup⟩ := contract
    simp only [withMethods, withTypeParameters, named] at kept ⊢
    congr
  simp [ofJson?, fields, methods, Json.required, same]

end Contract

/-! ## Interfaces -/

namespace Interface

theorem plain_toJson (interface : Interface) : interface.toJson.Plain := by
  refine .record ?_
  simp only [List.forall_mem_cons]
  refine ⟨.text _, Json.plain_optionalText _, .text _, .text _, .boolean _, .array ?_, by simp⟩
  intro item among
  obtain ⟨contract, -, rfl⟩ := List.mem_map.mp among
  exact contract.plain_toJson

theorem ofJson?_toJson (interface : Interface) : ofJson? interface.toJson = some interface := by
  have fields : interface.toJson.fields? fieldNames =
      some [some (.text interface.name), some (.optionalText interface.identityOverride),
        some (.text interface.domainType), some (.text interface.idType),
        some (.boolean interface.isReactive),
        some (.array (interface.contracts.map Contract.toJson))] :=
    Json.fields?_record_self rfl (by decide)
  have contracts : (Json.array (interface.contracts.map Contract.toJson)).list? Contract.ofJson? =
      some interface.contracts :=
    Json.mapM_map_of_reads Contract.ofJson?_toJson interface.contracts
  simp [ofJson?, fields, contracts, Json.required, Json.withDefault, Json.nullable_optionalText,
    Json.boolean?]

end Interface

/-! ## Configurations -/

theorem BootstrapMode.ofJson?_name (mode : BootstrapMode) : ofJson? (.text mode.name) = some mode := by
  cases mode with
  | lazy => rfl
  | eager => rfl

namespace Configuration

theorem plain_toJson (configuration : Configuration) : configuration.toJson.Plain := by
  refine .record ?_
  simp only [List.forall_mem_cons]
  exact ⟨.boolean _, .text _, Json.plain_texts _, Json.plain_texts _, .text _, by simp⟩

theorem ofJson?_toJson (configuration : Configuration) :
    ofJson? configuration.toJson = some configuration := by
  have fields : configuration.toJson.fields? fieldNames =
      some [some (.boolean configuration.exposesMetadata),
        some (.text configuration.implementationPostfix), some (.texts configuration.basePackages),
        some (.texts configuration.excludeFilters), some (.text configuration.bootstrapMode.name)] :=
    Json.fields?_record_self rfl (by decide)
  simp [ofJson?, fields, Json.withDefault, Json.boolean?, BootstrapMode.ofJson?_name]

end Configuration

/-! ## Texts -/

/-- The text of a value is read as that value, and the value that was read is written as that text. -/
def RoundTrips {α : Type} (explain : String → String) (toJson : α → Json) (ofJson? : Json → Option α)
    (value : α) : Prop :=
  Json.decode explain ofJson? (toJson value).compact = .ok value ∧
    (Json.decode explain ofJson? (toJson value).compact).map (fun read => (toJson read).compact) =
      .ok (toJson value).compact

theorem roundTrips_of_plain {α : Type} (explain : String → String) {toJson : α → Json}
    {ofJson? : Json → Option α} (plain : ∀ value, (toJson value).Plain)
    (reads : ∀ value, ofJson? (toJson value) = some value) (value : α) :
    RoundTrips explain toJson ofJson? value := by
  have read : Json.decode explain ofJson? (toJson value).compact = .ok value := by
    rw [Json.decode, (plain value).read?_compact, Option.bind_some, reads]
  exact ⟨read, by rw [read]; rfl⟩

/-- Every value of the data model survives its text. -/
theorem records_round_trip (explain : String → String) :
    (∀ signature : Signature,
        RoundTrips explain Signature.toJson Signature.ofJson? signature) ∧
      (∀ contract : Contract, RoundTrips explain Contract.toJson Contract.ofJson? contract) ∧
      (∀ interface : Interface, RoundTrips explain Interface.toJson Interface.ofJson? interface) ∧
      ∀ configuration : Configuration,
        RoundTrips explain Configuration.toJson Configuration.ofJson? configuration :=
  ⟨roundTrips_of_plain explain Signature.plain_toJson Signature.ofJson?_toJson,
    roundTrips_of_plain explain Contract.plain_toJson Contract.ofJson?_toJson,
    roundTrips_of_plain explain Interface.plain_toJson Interface.ofJson?_toJson,
    roundTrips_of_plain explain Configuration.plain_toJson Configuration.ofJson?_toJson⟩

end FragmentAssembly
