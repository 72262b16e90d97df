import FragmentAssembly.Configuration
import FragmentAssembly.Error
import FragmentAssembly.Interface
import FragmentAssembly.Json.Fields
import FragmentAssembly.Json.Reader
import FragmentAssembly.Json.Writer

/-!
# Records of the data model

The JSON form of signatures, contracts, interfaces and configurations. Each is a record with fixed
field names. What is written is read back; what is read may also be an array, list its fields in any
order and, in an object, hold unknown ones.
-/

namespace FragmentAssembly

namespace Json

/-- The value that a text denotes for a reader of values. If there is none, the error carries what
`explain` says about the text. -/
def decode {α : Type} (explain : String → String) (ofJson? : Json → Option α) (text : String) :
    Except Error α :=
  match (read? text).bind ofJson? with
  | some value => .ok value
  | none => .error (.serialization (explain text))

end Json

namespace Signature

/-- The fields of a signature. -/
def fieldNames : List String := ["name", "parameter_types"]

/-- A signature as a record. -/
def toJson (signature : Signature) : Json :=
  .record
    [("name", .text signature.name), ("parameter_types", .texts signature.parameterTypes)]

/-- The signature that a record denotes. -/
def ofJson? (json : Json) : Option Signature := do
  match ← json.fields? fieldNames with
  | [name, parameterTypes] =>
      return {
        name := ← Json.required Json.text? name
        parameterTypes := ← Json.required (Json.list? Json.text?) parameterTypes }
  | _ => none

end Signature

namespace Contract

/-- The fields of a contract. -/
def fieldNames : List String := ["name", "type_parameters", "methods"]

/-- A contract as a record. -/
def toJson (contract : Contract) : Json :=
  .record
    [("name", .text contract.name), ("type_parameters", .texts contract.typeParameters),
      ("methods", .array (contract.methods.map Signature.toJson))]

/-- The contract that a record denotes; repeated methods count once. -/
def ofJson? (json : Json) : Option Contract := do
  match ← json.fields? fieldNames with
  | [name, typeParameters, methods] =>
      return ((named (← Json.required Json.text? name)).withTypeParameters
        (← Json.required (Json.list? Json.text?) typeParameters)).withMethods
          (← Json.required (Json.list? Signature.ofJson?) methods)
  | _ => none

end Contract

namespace Interface

/-- The fields of an interface. -/
def fieldNames : List String :=
  ["repository_interface", "identity_override", "domain_type", "id_type", "reactive",
    "fragment_contracts"]

/-- An interface as a record. -/
def toJson (interface : Interface) : Json :=
  .record
    [("repository_interface", .text interface.name),
      ("identity_override", .optionalText interface.identityOverride),
      ("domain_type", .text interface.domainType), ("id_type", .text interface.idType),
      ("reactive", .boolean interface.isReactive),
      ("fragment_contracts", .array (interface.contracts.map Contract.toJson))]

/-- The interface that a record denotes; only the identity override may be absent. -/
def ofJson? (json : Json) : Option Interface := do
  match ← json.fields? fieldNames with
  | [name, identityOverride, domainType, idType, isReactive, contracts] =>
      return {
        name := ← Json.required Json.text? name
        identityOverride := ← Json.withDefault none (Json.nullable Json.text?) identityOverride
        domainType := ← Json.required Json.text? domainType
        idType := ← Json.required Json.text? idType
        isReactive := ← Json.required Json.boolean? isReactive
        contracts := ← Json.required (Json.list? Contract.ofJson?) contracts }
  | _ => none

end Interface

namespace BootstrapMode

/-- The name of a mode. -/
def name : BootstrapMode → String
  | .lazy => "lazy"
  | .eager => "eager"

/-- The mode of a name. -/
def ofName? (name : String) : Option BootstrapMode :=
  if name = "lazy" then some .lazy else if name = "eager" then some .eager else none

/-- The mode that a value denotes: its name, or an object with its name as the only key and `null` as
the value. -/
def ofJson? : Json → Option BootstrapMode
  | .object [(key, .null)] => key.text?.bind ofName?
  | json => json.text?.bind ofName?

end BootstrapMode

namespace Configuration

/-- The fields of a configuration. -/
def fieldNames : List String :=
  ["expose_metadata", "implementation_postfix", "base_packages", "exclude_filters",
    "bootstrap_mode"]

/-- A configuration as a record. -/
def toJson (configuration : Configuration) : Json :=
  .record
    [("expose_metadata", .boolean configuration.exposesMetadata),
      ("implementation_postfix", .text configuration.implementationPostfix),
      ("base_packages", .texts configuration.basePackages),
      ("exclude_filters", .texts configuration.excludeFilters),
      ("bootstrap_mode", .text configuration.bootstrapMode.name)]

/-- The configuration that a record denotes; an absent field takes its default value. -/
def ofJson? (json : Json) : Option Configuration := do
  match ← json.fields? fieldNames with
  | [exposesMetadata, implementationPostfix, basePackages, excludeFilters, bootstrapMode] =>
      return {
        exposesMetadata :=
          ← Json.withDefault default.exposesMetadata Json.boolean? exposesMetadata
        implementationPostfix :=
          ← Json.withDefault default.implementationPostfix Json.text? implementationPostfix
        basePackages :=
          ← Json.withDefault default.basePackages (Json.list? Json.text?) basePackages
        excludeFilters :=
          ← Json.withDefault default.excludeFilters (Json.list? Json.text?) excludeFilters
        bootstrapMode :=
          ← Json.withDefault default.bootstrapMode BootstrapMode.ofJson? bootstrapMode }
  | _ => none

/-- The configuration that a text denotes; an absent field takes its default value. -/
def parse (explain : String → String) (text : String) : Except Error Configuration :=
  Json.decode explain ofJson? text

end Configuration

end FragmentAssembly
