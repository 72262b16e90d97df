import FragmentAssembly.Proofs.Name.Identifiers
import FragmentAssembly.Proofs.Signature.Scanning

/-!
# Reading displayed signatures

A displayed signature is read back as itself exactly if its name is an identifier and none of its types
could be taken for another one, or for several. Whatever the reader returns is of that form. The pieces
of a displayed parameter list are its types, each but the first with the white space of the separator in
front.
-/

namespace FragmentAssembly
namespace Signature

/-- A parameter type that can be told from its neighbours: a text without white space at its ends, with
balanced angle brackets and without a comma outside of them. -/
structure WellFormedType (type : List Char) : Prop where
  some : type ≠ []
  bare : Text.Bare type
  balanced : Balanced type
  commas : ∀ before after, type = before ++ ',' :: after → before.count '<' ≠ before.count '>'

/-- A signature with an identifier as its name and with types that can be told apart. -/
structure WellFormed (signature : Signature) : Prop where
  named : Name.isIdentifier signature.name.toList = true
  typed : ∀ type ∈ signature.parameterTypes, WellFormedType type.toList

/-! ## Types as pieces -/

theorem plainFrom_zero_iff {type : List Char} :
    PlainFrom 0 type ↔ Balanced type ∧
      ∀ before after, type = before ++ ',' :: after → before.count '<' ≠ before.count '>' := by
  rw [balanced_iff]
  constructor
  · rintro ⟨covered, level, inside⟩
    refine ⟨⟨covered, ?_⟩, ?_⟩
    · omega
    · intro before after whole
      have within := inside before after whole
      omega
  · rintro ⟨⟨covered, level⟩, commas⟩
    refine ⟨covered, ?_, ?_⟩
    · omega
    · intro before after whole
      have outside := commas before after whole
      have point := covered before (',' :: after) whole
      omega

/-- A type can be told from its neighbours if it is a plain piece that trimming leaves as it is. -/
theorem wellFormedType_iff {type : List Char} :
    WellFormedType type ↔ type ≠ [] ∧ Text.Bare type ∧ PlainFrom 0 type := by
  rw [plainFrom_zero_iff]
  constructor
  · rintro ⟨some, bare, balanced, commas⟩
    exact ⟨some, bare, balanced, commas⟩
  · rintro ⟨some, bare, balanced, commas⟩
    exact ⟨some, bare, balanced, commas⟩

theorem count_blank {blanks : List Char} (blank : Text.Blank blanks) {character : Char}
    (solid : Text.isWhiteSpace character = false) : blanks.count character = 0 := by
  rw [List.count_eq_zero]
  intro member
  rw [blank character member] at solid
  cases solid

theorem PlainFrom.trim {piece : List Char} (plain : PlainFrom 0 piece) : PlainFrom 0 (Text.trim piece) := by
  obtain ⟨-, front, back, before, behind, whole⟩ := Text.exists_trim piece
  obtain ⟨covered, level, inside⟩ := plain
  have opening : ∀ text, (front ++ text).count '<' = text.count '<' := by
    intro text
    rw [List.count_append, count_blank before (by decide), Nat.zero_add]
  have closing : ∀ text, (front ++ text).count '>' = text.count '>' := by
    intro text
    rw [List.count_append, count_blank before (by decide), Nat.zero_add]
  refine ⟨?_, ?_, ?_⟩
  · intro start rest divided
    have point := covered (front ++ start) (rest ++ back) (by rw [whole, divided]; simp)
    rwa [opening, closing] at point
  · rw [whole, List.append_assoc, opening, closing, List.count_append, List.count_append,
      count_blank behind (by decide), count_blank behind (by decide)] at level
    exact level
  · intro start rest divided
    have point := inside (front ++ start) (rest ++ back) (by rw [whole, divided]; simp)
    rwa [opening, closing] at point

theorem plainFrom_space {piece : List Char} (plain : PlainFrom 0 piece) : PlainFrom 0 (' ' :: piece) :=
  (plainFrom_other (by decide) (by decide)).mpr ⟨by simp, plain⟩

/-- Plain pieces with commas between them are cut into just these pieces. -/
theorem cutParameters_intercalate {pieces : List (List Char)} (some : pieces ≠ [])
    (plain : ∀ piece ∈ pieces, PlainFrom 0 piece) :
    cutParameters 0 ([','].intercalate pieces) = .ok pieces := by
  induction pieces with
  | nil => exact absurd rfl some
  | cons piece others ih =>
      have first : PlainFrom 0 piece := plain piece List.mem_cons_self
      cases others with
      | nil =>
          have alone := cutParameters_append first []
          rw [List.append_nil] at alone
          rw [List.intercalate_singleton, alone, cutParameters, if_pos rfl]
          change Except.ok (prepend piece [[]]) = _
          rw [prepend_cons, List.append_nil]
      | cons second rest =>
          have behind := ih (List.cons_ne_nil second rest)
            (fun other member => plain other (List.mem_cons_of_mem piece member))
          have cut : cutParameters 0 (',' :: [','].intercalate (second :: rest)) =
              .ok ([] :: second :: rest) := by
            rw [cutParameters.eq_def]
            simp [behind, Except.map]
          rw [List.intercalate_cons_of_ne_nil (List.cons_ne_nil second rest), List.append_assoc,
            cutParameters_append first, List.singleton_append, cut]
          change Except.ok (prepend piece ([] :: second :: rest)) = _
          rw [prepend_cons, List.append_nil]

theorem plain_of_mem_piecesAtLevel {parameters piece : List Char} (balanced : Balanced parameters)
    (among : piece ∈ piecesAtLevel parameters) : PlainFrom 0 piece := by
  obtain ⟨first, others, pieces, plain, behind⟩ :=
    plain_of_cutParameters (cutParameters_eq_ok_iff.mpr ⟨balanced, rfl⟩)
  rw [pieces] at among
  rcases List.mem_cons.mp among with rfl | later
  · exact plain
  · exact behind piece later

/-! ## Displayed signatures -/

/-- The pieces of a displayed list of types. -/
def displayedPieces : List (List Char) → List (List Char)
  | [] => [[]]
  | type :: others => type :: others.map (' ' :: ·)

theorem intercalate_displayedPieces (types : List (List Char)) :
    [','].intercalate (displayedPieces types) = [',', ' '].intercalate types := by
  cases types with
  | nil => rfl
  | cons type others =>
      induction others generalizing type with
      | nil => rfl
      | cons second rest ih =>
          have behind := ih second
          rw [displayedPieces] at behind
          rw [displayedPieces, List.map_cons, List.intercalate_cons_cons,
            List.intercalate_cons_cons_left, behind, List.intercalate_cons_cons]
          simp

theorem plain_displayedPieces {types : List (List Char)} (plain : ∀ type ∈ types, PlainFrom 0 type) :
    ∀ piece ∈ displayedPieces types, PlainFrom 0 piece := by
  cases types with
  | nil =>
      intro piece member
      rw [displayedPieces, List.mem_singleton] at member
      rw [member]
      exact plainFrom_nil_iff.mpr rfl
  | cons type others =>
      rw [List.forall_mem_cons] at plain
      rw [displayedPieces, List.forall_mem_cons, List.forall_mem_map]
      exact ⟨plain.1, fun other member => plainFrom_space (plain.2 other member)⟩

theorem map_trim_displayedPieces {types : List (List Char)} (some : types ≠ [])
    (bare : ∀ type ∈ types, Text.Bare type) : (displayedPieces types).map Text.trim = types := by
  cases types with
  | nil => exact absurd rfl some
  | cons type others =>
      rw [List.forall_mem_cons] at bare
      have blank : Text.Blank [' '] := by
        intro character member
        rw [List.mem_singleton.mp member]
        decide
      have trimmed : ∀ other ∈ others, (Text.trim ∘ (' ' :: ·)) other = id other := by
        intro other member
        rw [Function.comp_apply, ← List.singleton_append, Text.trim_whiteSpace_append blank,
          Text.trim_of_bare (bare.2 other member), id]
      rw [displayedPieces, List.map_cons, List.map_map, Text.trim_of_bare bare.1,
        List.map_congr_left trimmed, List.map_id]

theorem piecesAtLevel_displayed {types : List (List Char)} (plain : ∀ type ∈ types, PlainFrom 0 type) :
    Balanced ([',', ' '].intercalate types) ∧
      piecesAtLevel ([',', ' '].intercalate types) = displayedPieces types := by
  have some : displayedPieces types ≠ [] := by
    cases types with
    | nil => exact List.cons_ne_nil _ _
    | cons type others => exact List.cons_ne_nil _ _
  have cut := cutParameters_intercalate some (plain_displayedPieces plain)
  rw [intercalate_displayedPieces] at cut
  obtain ⟨balanced, pieces⟩ := cutParameters_eq_ok_iff.mp cut
  exact ⟨balanced, pieces.symm⟩

theorem toList_display (signature : Signature) :
    signature.display.toList =
      signature.name.toList ++
        '(' :: ([',', ' '].intercalate (signature.parameterTypes.map String.toList) ++ [')']) := by
  rw [display]
  simp [String.toList_intercalate]

/-- With an identifier as the name, a displayed signature has no white space at its ends. -/
theorem bare_display {signature : Signature} (named : Name.isIdentifier signature.name.toList = true) :
    Text.Bare signature.display.toList := by
  rw [toList_display]
  constructor
  · intro character first
    cases name : signature.name.toList with
    | nil =>
        rw [name] at named
        cases named
    | cons start rest =>
        rw [name] at first
        refine (Name.bare_of_isIdentifier named).starts character ?_
        rw [name]
        exact first
  · intro character last
    rw [← List.cons_append, ← List.append_assoc, List.getLast?_concat] at last
    rw [← Option.some.inj last]
    decide

theorem WellFormed.written {signature : Signature} (formed : signature.WellFormed) :
    Written signature.display.toList signature := by
  obtain ⟨named, typed⟩ := formed
  have outside : Name.continuesIdentifier '(' = false := by decide +kernel
  have first : '(' ∉ signature.name.toList := by
    intro member
    exact absurd (Name.continues_of_mem named member) (by simp [outside])
  have formedTypes : ∀ type ∈ signature.parameterTypes.map String.toList,
      type ≠ [] ∧ Text.Bare type ∧ PlainFrom 0 type :=
    List.forall_mem_map.mpr fun type member => wellFormedType_iff.mp (typed type member)
  obtain ⟨balanced, pieces⟩ :=
    piecesAtLevel_displayed fun type member => (formedTypes type member).2.2
  refine ⟨signature.name.toList, [',', ' '].intercalate (signature.parameterTypes.map String.toList),
    ⟨?_, first⟩, Text.trim_of_bare (Name.bare_of_isIdentifier named), named, balanced, ?_⟩
  · rw [Text.trim_of_bare (bare_display named), toList_display]
  · by_cases none : signature.parameterTypes = []
    · refine .inl ⟨?_, none⟩
      rw [none]
      nofun
    · refine .inr ⟨?_, ?_⟩
      · rw [pieces, map_trim_displayedPieces (mt List.map_eq_nil_iff.mp none)
          fun type member => (formedTypes type member).2.1]
      · intro type member
        exact mt String.toList_eq_nil_iff.mpr (typed type member).some

theorem Written.wellFormed {text : List Char} {signature : Signature} (written : Written text signature) :
    signature.WellFormed := by
  obtain ⟨beforeOpening, parameters, -, -, named, balanced, lists⟩ := written
  refine ⟨named, ?_⟩
  intro type member
  rcases lists with ⟨-, none⟩ | ⟨listed, some⟩
  · rw [none] at member
    cases member
  · obtain ⟨piece, among, trimmed⟩ : ∃ piece ∈ piecesAtLevel parameters, Text.trim piece = type.toList := by
      rw [← List.mem_map, ← listed]
      exact List.mem_map_of_mem member
    have plain := plain_of_mem_piecesAtLevel balanced among
    rw [wellFormedType_iff, ← trimmed]
    refine ⟨?_, (Text.exists_trim piece).1, plain.trim⟩
    rw [trimmed]
    exact mt String.toList_eq_nil_iff.mp (some type member)

/-- A signature is read back from its displayed form exactly if it is well-formed. -/
theorem parse_display_iff {signature : Signature} :
    parse signature.display = .ok signature ↔ signature.WellFormed := by
  rw [parse_eq_ok_iff]
  exact ⟨Written.wellFormed, WellFormed.written⟩

instance (signature : Signature) : Decidable signature.WellFormed :=
  decidable_of_iff ((parse signature.display).toOption = some signature) <| by
    rw [← parse_display_iff]
    cases parse signature.display with
    | error malformation => simp [Except.toOption]
    | ok other => simp [Except.toOption]

example : (⟨"index", ["Map<String, (K, V)>", "int[]"]⟩ : Signature).WellFormed := by decide +kernel

example : ¬(⟨"index", ["K, V"]⟩ : Signature).WellFormed := by decide +kernel

/-- Displaying and reading give back exactly the well-formed signatures, and all that is read from any
text is one of them. -/
theorem display_round_trip :
    (∀ signature : Signature, parse signature.display = .ok signature ↔ signature.WellFormed) ∧
      ∀ (text : String) (signature : Signature), parse text = .ok signature →
        signature.WellFormed ∧ parse signature.display = parse text := by
  refine ⟨fun signature => parse_display_iff, ?_⟩
  intro text signature read
  have formed := (parse_eq_ok_iff.mp read).wellFormed
  exact ⟨formed, (parse_display_iff.mpr formed).trans read.symm⟩

end Signature
end FragmentAssembly
