import FragmentAssembly.Proofs.Json.Fields
import FragmentAssembly.Proofs.Json.Reading
import FragmentAssembly.Records

/-!
# Configurations that are given in part

A configuration may be given by any of its fields, in any order and among other keys. The fields that
are given have their values, and the others are as by default. A field that is given twice, or by a
value of another type, leaves no configuration at all.
-/

namespace FragmentAssembly

namespace BootstrapMode

theorem ofName?_eq_some_iff {name : String} {mode : BootstrapMode} :
    ofName? name = some mode ↔ name = mode.name := by
  constructor
  · intro named
    unfold ofName? at named
    split at named
    · rename_i same
      cases named
      exact same
    · split at named
      · rename_i same
        cases named
        exact same
      · cases named
  · rintro rfl
    cases mode <;> rfl

theorem ofJson?_eq_some_iff {json : Json} {mode : BootstrapMode} :
    ofJson? json = some mode ↔ json = .text mode.name ∨ json = .record [(mode.name, .null)] := by
  unfold ofJson?
  split
  · rename_i key
    simp [Option.bind_eq_some_iff, ofName?_eq_some_iff, Json.Content.text?_eq_some_iff, Json.text,
      Json.record]
  · rename_i other
    have never : json ≠ .record [(mode.name, .null)] := other _
    simp [Option.bind_eq_some_iff, ofName?_eq_some_iff, Json.text?_eq_some_iff, never]

end BootstrapMode

namespace Configuration

/-- The fields of a configuration. -/
inductive Field where
  | exposesMetadata
  | implementationPostfix
  | basePackages
  | excludeFilters
  | bootstrapMode

namespace Field

/-- The key that a field is given under. -/
def key : Field → String
  | .exposesMetadata => "expose_metadata"
  | .implementationPostfix => "implementation_postfix"
  | .basePackages => "base_packages"
  | .excludeFilters => "exclude_filters"
  | .bootstrapMode => "bootstrap_mode"

/-- The type of a field. -/
def Value : Field → Type
  | .exposesMetadata => Bool
  | .implementationPostfix => String
  | .basePackages => List String
  | .excludeFilters => List String
  | .bootstrapMode => BootstrapMode

/-- The forms in which a value of a field can be given. A mode is given by its name, or by an object
with its name as the only key and `null` under it. -/
def forms : (field : Field) → field.Value → List Json
  | .exposesMetadata, (value : Bool) => [.boolean value]
  | .implementationPostfix, (value : String) => [.text value]
  | .basePackages, (values : List String) => [.texts values]
  | .excludeFilters, (values : List String) => [.texts values]
  | .bootstrapMode, (mode : BootstrapMode) => [.text mode.name, .record [(mode.name, .null)]]

/-- What the members of an object say about a field that they do not spoil. -/
inductive GivenBy (members : List (String × Json)) (field : Field) : Option field.Value → Prop where
  /-- No member has the key. -/
  | absent (nowhere : Json.valuesOf field.key members = []) : field.GivenBy members none
  /-- One member has the key, and its value is a form of a value of the field. -/
  | once {json : Json} {value : field.Value} (only : Json.valuesOf field.key members = [json])
      (form : json ∈ field.forms value) : field.GivenBy members (some value)

/-- A field is spoiled if it is given twice or by something that is no form of any of its values. -/
def Spoiled (members : List (String × Json)) (field : Field) : Prop :=
  2 ≤ (Json.valuesOf field.key members).length ∨
    ∃ json ∈ Json.valuesOf field.key members, ∀ value, json ∉ field.forms value

/-- The reader of the values of a field. -/
def read? : (field : Field) → Json → Option field.Value
  | .exposesMetadata => Json.boolean?
  | .implementationPostfix => Json.text?
  | .basePackages => Json.list? Json.text?
  | .excludeFilters => Json.list? Json.text?
  | .bootstrapMode => BootstrapMode.ofJson?

theorem read?_eq_some_iff {field : Field} {json : Json} {value : field.Value} :
    field.read? json = some value ↔ json ∈ field.forms value := by
  cases field with
  | exposesMetadata => exact Json.boolean?_eq_some_iff.trans List.mem_singleton.symm
  | implementationPostfix => exact Json.text?_eq_some_iff.trans List.mem_singleton.symm
  | basePackages => exact Json.list?_text?_eq_some_iff.trans List.mem_singleton.symm
  | excludeFilters => exact Json.list?_text?_eq_some_iff.trans List.mem_singleton.symm
  | bootstrapMode => exact BootstrapMode.ofJson?_eq_some_iff.trans List.mem_pair.symm

theorem null_not_mem_forms (field : Field) (value : field.Value) : .null ∉ field.forms value := by
  intro form
  have read := read?_eq_some_iff.mpr form
  cases field <;> cases read

end Field

/-- The value of a field. -/
def get (configuration : Configuration) : (field : Field) → field.Value
  | .exposesMetadata => configuration.exposesMetadata
  | .implementationPostfix => configuration.implementationPostfix
  | .basePackages => configuration.basePackages
  | .excludeFilters => configuration.excludeFilters
  | .bootstrapMode => configuration.bootstrapMode

/-- The configuration with given values of its fields. -/
def ofValues (value : (field : Field) → field.Value) : Configuration where
  exposesMetadata := value .exposesMetadata
  implementationPostfix := value .implementationPostfix
  basePackages := value .basePackages
  excludeFilters := value .excludeFilters
  bootstrapMode := value .bootstrapMode

@[simp]
theorem get_ofValues (value : (field : Field) → field.Value) (field : Field) :
    (ofValues value).get field = value field := by
  cases field <;> rfl

/-! ## Field by field -/

/-- What an object gives for a field, by default included. -/
def Field.find? (field : Field) (members : List (String × Json)) : Option field.Value :=
  (Json.single? members field.key).bind (Json.withDefault (default.get field) field.read?)

/-- A record denotes a configuration exactly if it gives a value for each field. -/
theorem ofJson?_record_eq_some_iff {members : List (String × Json)} {configuration : Configuration} :
    ofJson? (.record members) = some configuration ↔
      ∀ field : Field, field.find? members = some (configuration.get field) := by
  rw [ofJson?, Json.fields?_record]
  simp only [fieldNames, List.mapM_cons, List.mapM_nil, Option.bind_eq_bind, Option.pure_def,
    Option.bind_assoc, Option.bind_some, Option.bind_eq_some_iff, Option.some.injEq]
  constructor
  · rintro ⟨first, found₁, second, found₂, third, found₃, fourth, found₄, fifth, found₅,
      value₁, read₁, value₂, read₂, value₃, read₃, value₄, read₄, value₅, read₅, rfl⟩ field
    cases field with
    | exposesMetadata => exact Option.bind_eq_some_iff.mpr ⟨first, found₁, read₁⟩
    | implementationPostfix => exact Option.bind_eq_some_iff.mpr ⟨second, found₂, read₂⟩
    | basePackages => exact Option.bind_eq_some_iff.mpr ⟨third, found₃, read₃⟩
    | excludeFilters => exact Option.bind_eq_some_iff.mpr ⟨fourth, found₄, read₄⟩
    | bootstrapMode => exact Option.bind_eq_some_iff.mpr ⟨fifth, found₅, read₅⟩
  · intro each
    obtain ⟨first, found₁, read₁⟩ := Option.bind_eq_some_iff.mp (each .exposesMetadata)
    obtain ⟨second, found₂, read₂⟩ := Option.bind_eq_some_iff.mp (each .implementationPostfix)
    obtain ⟨third, found₃, read₃⟩ := Option.bind_eq_some_iff.mp (each .basePackages)
    obtain ⟨fourth, found₄, read₄⟩ := Option.bind_eq_some_iff.mp (each .excludeFilters)
    obtain ⟨fifth, found₅, read₅⟩ := Option.bind_eq_some_iff.mp (each .bootstrapMode)
    exact ⟨first, found₁, second, found₂, third, found₃, fourth, found₄, fifth, found₅, _, read₁,
      _, read₂, _, read₃, _, read₄, _, read₅, rfl⟩

/-- A field that is not spoiled has the value that is given, or else its default. -/
theorem Field.GivenBy.find?_eq {field : Field} {members : List (String × Json)}
    {given : Option field.Value} (said : field.GivenBy members given) :
    field.find? members = some (given.getD (default.get field)) := by
  cases said with
  | absent nowhere =>
      rw [find?, Json.single?_eq, nowhere]
      rfl
  | once only form =>
      rw [find?, Json.single?_eq, only]
      exact read?_eq_some_iff.mpr form

theorem Field.Spoiled.find?_eq {field : Field} {members : List (String × Json)}
    (spoiled : field.Spoiled members) : field.find? members = none := by
  rw [find?, Json.single?_eq]
  split
  · rename_i nowhere
    rw [Spoiled, nowhere] at spoiled
    simp at spoiled
  · rename_i json only
    rw [Spoiled, only] at spoiled
    have formless : ∀ value, json ∉ field.forms value := by simpa using spoiled
    rw [Option.bind_some, Json.withDefault, Option.eq_none_iff_forall_ne_some]
    exact fun value read => formless value (read?_eq_some_iff.mp read)
  · rfl

/-- An object says nothing about a field, gives it, or spoils it. -/
theorem Field.spoiled_or_givenBy (field : Field) (members : List (String × Json)) :
    field.Spoiled members ∨ ∃ given, field.GivenBy members given := by
  cases values : Json.valuesOf field.key members with
  | nil => exact .inr ⟨none, .absent values⟩
  | cons json others =>
      cases others with
      | nil =>
          by_cases formed : ∃ value, json ∈ field.forms value
          · obtain ⟨value, form⟩ := formed
            exact .inr ⟨some value, .once values form⟩
          · refine .inl (.inr ⟨json, by rw [values]; exact List.mem_singleton_self json, ?_⟩)
            exact not_exists.mp formed
      | cons second rest => exact .inl (.inl (by rw [values]; simp))

/-! ## Texts -/

/-- The members of an object that are fields of a configuration. -/
def known (members : List (String × Json)) : List (String × Json) :=
  members.filter fun member => member.1 ∈ fieldNames

theorem valuesOf_known (field : Field) (members : List (String × Json)) :
    Json.valuesOf field.key (known members) = Json.valuesOf field.key members := by
  have listed : field.key ∈ fieldNames := by
    cases field <;> decide
  rw [Json.valuesOf, known, List.filter_filter, Json.valuesOf]
  congr 2
  funext member
  by_cases same : member.1 = field.key
  · simp [same, listed]
  · simp [same]

/-- Only the known members matter for a field, and not in which order they are given. -/
theorem Field.find?_of_perm_known {members others : List (String × Json)}
    (same : (known members).Perm (known others)) (field : Field) :
    field.find? members = field.find? others := by
  have values : (Json.valuesOf field.key members).Perm (Json.valuesOf field.key others) := by
    rw [← valuesOf_known, ← valuesOf_known field others]
    exact (same.filter _).map _
  rw [find?, find?, Json.single?_of_perm values]

theorem parse_eq_ok_iff {explain : String → String} {text : String} {json : Json}
    (denotes : Json.Denotes text json) {configuration : Configuration} :
    parse explain text = .ok configuration ↔ ofJson? json = some configuration := by
  rw [parse, Json.decode, Json.read?_eq_some_iff.mpr denotes, Option.bind_some]
  cases ofJson? json <;> simp

theorem parse_eq_error {explain : String → String} {text : String} {json : Json}
    (denotes : Json.Denotes text json) (nothing : ofJson? json = none) :
    parse explain text = .error (.serialization (explain text)) := by
  rw [parse, Json.decode, Json.read?_eq_some_iff.mpr denotes, Option.bind_some, nothing]

theorem ofJson?_object_of_not_record {raw : List (Json.Content × Json)}
    (odd : ∀ members, Json.object raw ≠ .record members) : ofJson? (.object raw) = none := by
  have unnamed : raw.mapM Json.member? = none := by
    rw [Option.eq_none_iff_forall_ne_some]
    exact fun members named => odd members (Json.mapM_member?_eq_some_iff.mp named)
  rw [ofJson?, Json.fields?]
  simp [unnamed]

/-- An object whose keys are texts denotes a configuration unless one of its fields is spoiled, and then
the configuration depends on the members that are fields, but not on their order. An object with a key
that is no text denotes none. -/
theorem parse_partial (explain : String → String) {text : String} {members : List (String × Json)}
    (denotes : Json.Denotes text (.record members)) :
    (∀ given : (field : Field) → Option field.Value,
        (∀ field : Field, field.GivenBy members (given field)) →
          parse explain text = .ok (ofValues fun field => (given field).getD (default.get field))) ∧
      (∀ field : Field, field.Spoiled members →
        parse explain text = .error (.serialization (explain text))) ∧
      (∀ field : Field, .null ∈ Json.valuesOf field.key members → field.Spoiled members) ∧
      ((∃ field : Field, field.Spoiled members) ∨
        ∃ given : (field : Field) → Option field.Value,
          ∀ field : Field, field.GivenBy members (given field)) ∧
      (∀ {other : String} {others : List (String × Json)},
        Json.Denotes other (.record others) → (known members).Perm (known others) →
          ∀ configuration : Configuration,
            parse explain text = .ok configuration ↔ parse explain other = .ok configuration) ∧
      ∀ {odd : String} {raw : List (Json.Content × Json)}, Json.Denotes odd (.object raw) →
        (∀ others, Json.object raw ≠ .record others) →
          parse explain odd = .error (.serialization (explain odd)) := by
  refine ⟨?_, ?_, ?_, ?_, ?_, ?_⟩
  · intro given said
    rw [parse_eq_ok_iff denotes, ofJson?_record_eq_some_iff]
    intro field
    rw [(said field).find?_eq, get_ofValues]
  · intro field spoiled
    refine parse_eq_error denotes ?_
    rw [Option.eq_none_iff_forall_ne_some]
    intro configuration read
    have found := ofJson?_record_eq_some_iff.mp read field
    rw [spoiled.find?_eq] at found
    cases found
  · exact fun field among => .inr ⟨.null, among, field.null_not_mem_forms⟩
  · by_cases spoiled : ∃ field : Field, field.Spoiled members
    · exact .inl spoiled
    · have said (field : Field) : ∃ given, field.GivenBy members given :=
        (field.spoiled_or_givenBy members).resolve_left fun one => spoiled ⟨field, one⟩
      choose given said using said
      exact .inr ⟨given, said⟩
  · intro other others also same configuration
    rw [parse_eq_ok_iff denotes, parse_eq_ok_iff also, ofJson?_record_eq_some_iff,
      ofJson?_record_eq_some_iff]
    simp only [Field.find?_of_perm_known same]
  · exact fun also unnamed => parse_eq_error also (ofJson?_object_of_not_record unnamed)

/-- What an object can say about a configuration: two fields, and nothing about the others. -/
def exposedAndEager : (field : Field) → Option field.Value
  | .exposesMetadata => some true
  | .bootstrapMode => some BootstrapMode.eager
  | _ => none

theorem parse_partial_exposed_and_eager :
    let text := "\x7b\"?\":[\"\\ud800\"],\"expose_metadat\\u0061\":true, \"bootstrap_mode\":\"eager\"\x7d"
    let members : List (String × Json) :=
      [("?", .array [.string [.surrogate 0xD800]]), ("expose_metadata", .boolean true),
        ("bootstrap_mode", .text "eager")]
    let other := "\x7b\"bootstrap_mode\":\"eager\",\"expose_metadata\":true\x7d"
    let others : List (String × Json) :=
      [("bootstrap_mode", .text "eager"), ("expose_metadata", .boolean true)]
    let spoilt := "\x7b\"bootstrap_mode\":null\x7d"
    Json.Denotes text (.record members) ∧ Json.Denotes other (.record others) ∧
      (∀ field : Field, field.GivenBy members (exposedAndEager field)) ∧
      (known members).Perm (known others) ∧
      parse id text = .ok { default with exposesMetadata := true, bootstrapMode := .eager } ∧
      parse id other = .ok { default with exposesMetadata := true, bootstrapMode := .eager } ∧
      Json.Denotes spoilt (.record [("bootstrap_mode", .null)]) ∧
      Field.bootstrapMode.Spoiled [("bootstrap_mode", .null)] ∧
      parse id spoilt = .error (.serialization spoilt) := by
  intro text members other others spoilt
  have denotes : Json.Denotes text (.record members) := by
    rw [← Json.read?_eq_some_iff, Json.read?]
    simp only [text, String.reduceToList]
    rfl
  have also : Json.Denotes other (.record others) := by
    rw [← Json.read?_eq_some_iff, Json.read?]
    simp only [other, String.reduceToList]
    rfl
  have nulled : Json.Denotes spoilt (.record [("bootstrap_mode", .null)]) := by
    rw [← Json.read?_eq_some_iff, Json.read?]
    simp only [spoilt, String.reduceToList]
    rfl
  have said : ∀ field : Field, field.GivenBy members (exposedAndEager field) := by
    intro field
    cases field with
    | exposesMetadata => exact .once rfl List.mem_cons_self
    | implementationPostfix => exact .absent rfl
    | basePackages => exact .absent rfl
    | excludeFilters => exact .absent rfl
    | bootstrapMode => exact .once rfl List.mem_cons_self
  have same : (known members).Perm (known others) := List.Perm.swap _ _ _
  obtain ⟨given, -, -, -, reordered, -⟩ := parse_partial id denotes
  obtain ⟨-, fails, nulls, -⟩ := parse_partial id nulled
  have read := given exposedAndEager said
  have spoiled := nulls .bootstrapMode List.mem_cons_self
  exact ⟨denotes, also, said, same, read, (reordered also same _).mp read, nulled, spoiled,
    fails .bootstrapMode spoiled⟩

/-- An unknown key that is half of a surrogate pair leaves no configuration, and an object can stand for
a mode. -/
theorem key_without_text_fails :
    Json.Denotes "\x7b\"\\ud800\":1\x7d" (.object [([.surrogate 0xD800], .number ['1'])]) ∧
      parse id "\x7b\"\\ud800\":1\x7d" =
        .error (.serialization "\x7b\"\\ud800\":1\x7d") ∧
      Json.Denotes "\x7b\"bootstrap_mode\":\x7b\"eager\":null\x7d\x7d"
        (.record [("bootstrap_mode", .record [("eager", .null)])]) ∧
      parse id "\x7b\"bootstrap_mode\":\x7b\"eager\":null\x7d\x7d" =
        .ok { default with bootstrapMode := .eager } := by
  have denotes : Json.Denotes "\x7b\"\\ud800\":1\x7d"
      (.object [([.surrogate 0xD800], .number ['1'])]) := by
    rw [← Json.read?_eq_some_iff, Json.read?]
    simp only [String.reduceToList]
    rfl
  have also : Json.Denotes "\x7b\"bootstrap_mode\":\x7b\"eager\":null\x7d\x7d"
      (.record [("bootstrap_mode", .record [("eager", .null)])]) := by
    rw [← Json.read?_eq_some_iff, Json.read?]
    simp only [String.reduceToList]
    rfl
  exact ⟨denotes, parse_eq_error denotes rfl, also, (parse_eq_ok_iff also).mpr rfl⟩

end Configuration
end FragmentAssembly
