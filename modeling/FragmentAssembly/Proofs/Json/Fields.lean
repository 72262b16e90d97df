import FragmentAssembly.Json.Fields
import FragmentAssembly.Proofs.FirstOfKey

/-!
# Records and their fields

Readers of texts and of lists accept one form of a value each. The fields of a record are its members
under the names of the fields; whatever else it holds is passed over.
-/

namespace FragmentAssembly
namespace Json

/-! ## Readers with one form -/

theorem mapM_map_of_reads {α β : Type} {read? : β → Option α} {form : α → β}
    (reads : ∀ value, read? (form value) = some value) (values : List α) :
    (values.map form).mapM read? = some values := by
  induction values with
  | nil => rfl
  | cons value others ih => simp [reads, ih]

/-- A list is read from the forms of its items only if every value has one form. -/
theorem mapM_eq_some_iff_of_reads {α β : Type} {read? : β → Option α} {form : α → β}
    (reads : ∀ item value, read? item = some value ↔ item = form value) {items : List β}
    {values : List α} : items.mapM read? = some values ↔ items = values.map form := by
  constructor
  · intro all
    induction items generalizing values with
    | nil =>
        cases all
        rfl
    | cons item others ih =>
        rw [List.mapM_cons] at all
        obtain ⟨first, one, all⟩ := Option.bind_eq_some_iff.mp all
        obtain ⟨rest, behind, same⟩ := Option.bind_eq_some_iff.mp all
        cases same
        rw [List.map_cons, (reads item first).mp one, ih behind]
  · rintro rfl
    exact mapM_map_of_reads (fun value => (reads (form value) value).mpr rfl) values

theorem Content.text?_eq_some_iff {content : Content} {value : String} :
    content.text? = some value ↔ content = Content.ofString value := by
  have characters : ∀ element character, Element.character? element = some character ↔
      element = .character character := by
    rintro (own | code) character
    · simp [Element.character?]
    · simp [Element.character?]
  rw [text?, Option.map_eq_some_iff, ofString, ← mapM_eq_some_iff_of_reads characters]
  constructor
  · rintro ⟨list, read, rfl⟩
    rwa [String.toList_ofList]
  · intro read
    exact ⟨value.toList, read, String.ofList_toList⟩

theorem text?_eq_some_iff {json : Json} {value : String} :
    json.text? = some value ↔ json = .text value := by
  cases json <;> simp [Json.text?, Json.text, Content.text?_eq_some_iff]

@[simp]
theorem text?_text (value : String) : (text value).text? = some value :=
  text?_eq_some_iff.mpr rfl

theorem boolean?_eq_some_iff {json : Json} {value : Bool} :
    json.boolean? = some value ↔ json = .boolean value := by
  cases json <;> simp [boolean?]

theorem list?_text?_eq_some_iff {json : Json} {values : List String} :
    json.list? text? = some values ↔ json = .texts values := by
  cases json <;> simp [list?, texts, mapM_eq_some_iff_of_reads fun _ _ => text?_eq_some_iff]

@[simp]
theorem list?_text?_texts (values : List String) : (texts values).list? text? = some values :=
  list?_text?_eq_some_iff.mpr rfl

theorem nullable_optionalText (value : Option String) :
    nullable text? (optionalText value) = some value := by
  cases value with
  | none => rfl
  | some value =>
      change (text? (text value)).map some = some (some value)
      rw [text?_text, Option.map_some]

/-! ## Members -/

/-- The values of a record under a key, in their order. -/
def valuesOf (key : String) (members : List (String × Json)) : List Json :=
  (members.filter fun member => member.1 = key).map Prod.snd

/-- An object is a record if its keys are texts. -/
theorem mapM_member?_eq_some_iff {members : List (Content × Json)} {named : List (String × Json)} :
    members.mapM member? = some named ↔ Json.object members = .record named := by
  have keys : ∀ (member : Content × Json) (one : String × Json),
      member? member = some one ↔ member = (Content.ofString one.1, one.2) := by
    rintro ⟨name, value⟩ ⟨key, other⟩
    simp [member?, Content.text?_eq_some_iff]
  rw [mapM_eq_some_iff_of_reads keys, record, Json.object.injEq]

theorem fields?_record (names : List String) (members : List (String × Json)) :
    (record members).fields? names = names.mapM (single? members) := by
  have read := mapM_member?_eq_some_iff.mpr (rfl : record members = record members)
  rw [record, fields?]
  simp only [read, Option.bind_eq_bind, Option.bind_some]

/-- A field is absent, given by one value, or repeated. -/
theorem single?_eq (members : List (String × Json)) (key : String) :
    single? members key =
      match valuesOf key members with
      | [] => some none
      | [value] => some (some value)
      | _ => none := by
  unfold single? valuesOf
  cases members.filter fun member => member.1 = key with
  | nil => rfl
  | cons first others =>
      cases others with
      | nil => rfl
      | cons second rest => rfl

/-- The order of the values under a key does not matter: a look-up fails if there are several. -/
theorem single?_of_perm {members others : List (String × Json)} {key : String}
    (same : (valuesOf key members).Perm (valuesOf key others)) :
    single? members key = single? others key := by
  rw [single?_eq, single?_eq]
  cases values : valuesOf key members with
  | nil =>
      rw [values] at same
      rw [List.nil_perm.mp same]
  | cons first rest =>
      cases rest with
      | nil =>
          rw [values] at same
          rw [List.singleton_perm.mp same]
      | cons second rest =>
          have several := same.length_eq
          rw [values] at several
          cases kept : valuesOf key others with
          | nil => simp [kept] at several
          | cons third more =>
              cases more with
              | nil => simp [kept] at several
              | cons fourth more => rfl

theorem valuesOf_of_mem {members : List (String × Json)} (distinct : (members.map Prod.fst).Nodup)
    {member : String × Json} (among : member ∈ members) : valuesOf member.1 members = [member.2] := by
  rw [valuesOf, Distinct.filter_of_nodup distinct, Distinct.find?_of_nodup distinct among]
  rfl

theorem fields?_record_self {names : List String} {members : List (String × Json)}
    (named : members.map Prod.fst = names) (distinct : names.Nodup) :
    (record members).fields? names = some (members.map fun member => some member.2) := by
  subst named
  rw [fields?_record]
  suffices each : ∀ among ⊆ members,
      (among.map Prod.fst).mapM (single? members) = some (among.map fun member => some member.2) from
    each members (List.Subset.refl members)
  intro among
  induction among with
  | nil => intro _; rfl
  | cons member others ih =>
      intro part
      have first : single? members member.1 = some (some member.2) := by
        rw [single?_eq, valuesOf_of_mem distinct (part List.mem_cons_self)]
      have rest := ih fun other beside => part (List.mem_cons_of_mem member beside)
      simp [first, rest]

end Json
end FragmentAssembly
