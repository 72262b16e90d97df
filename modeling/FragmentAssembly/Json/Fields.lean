import FragmentAssembly.Json.Basic

/-!
# Records in JSON

A record is written as an object and read from an object or from an array of its fields in order. An
object may hold unknown keys, whose values are ignored, and must not repeat a known one.
-/

namespace FragmentAssembly
namespace Json

/-- The value of a known key: nothing if the key is absent, and a failure if it is repeated. -/
def single? (members : List (String × Json)) (key : String) : Option (Option Json) :=
  match members.filter fun member => member.1 = key with
  | [] => some none
  | [(_, value)] => some (some value)
  | _ => none

/-- The value of the first member with a key; `null` counts as absent. -/
def get? (key : String) : Json → Option Json
  | .object members =>
      match members.find? fun member => member.1.text? = some key with
      | some (_, .null) => none
      | some (_, value) => some value
      | none => none
  | _ => none

/-- A member whose key is a text. -/
def member? (member : Content × Json) : Option (String × Json) :=
  member.1.text?.map fun key => (key, member.2)

/-- The values of a record's fields, in the order of their names. An array may stop early, but it must
not hold more values than there are fields. -/
def fields? (names : List String) : Json → Option (List (Option Json))
  | .object members => do names.mapM (single? (← members.mapM member?))
  | .array items =>
      if items.length ≤ names.length then
        some (items.map some ++ List.replicate (names.length - items.length) none)
      else
        none
  | _ => none

/-- A field that must be present. -/
def required {α : Type} (read? : Json → Option α) : Option Json → Option α
  | some value => read? value
  | none => none

/-- A field that takes a default value if it is absent. -/
def withDefault {α : Type} (default : α) (read? : Json → Option α) : Option Json → Option α
  | some value => read? value
  | none => some default

/-- A text or `null`. -/
def nullable {α : Type} (read? : Json → Option α) : Json → Option (Option α)
  | .null => some none
  | value => (read? value).map some

end Json
end FragmentAssembly
