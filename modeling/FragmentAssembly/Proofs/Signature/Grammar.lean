import FragmentAssembly.Error
import FragmentAssembly.Proofs.Signature.Brackets
import FragmentAssembly.Proofs.Text.Trimming

/-!
# The written form of signatures

The reader of signatures accepts the texts of one written form, and it tells what is wrong with any
other text. The form says where the parts of a text are, without a scan through it: the first opening
parenthesis, the closing one at the end, and the commas that stand outside of all angle brackets.
-/

namespace FragmentAssembly
namespace Signature

/-- A text falls apart at its first opening parenthesis and a closing one at its end. -/
structure Split (text beforeOpening parameters : List Char) : Prop where
  whole : text = beforeOpening ++ '(' :: (parameters ++ [')'])
  first : '(' ∉ beforeOpening

/-- A parameter list names types: none if it is blank, and otherwise its trimmed pieces, none of which
is empty. -/
def Lists (parameters : List Char) (types : List String) : Prop :=
  (Text.Blank parameters ∧ types = []) ∨
    (types.map String.toList = (piecesAtLevel parameters).map Text.trim ∧ ∀ type ∈ types, type ≠ "")

/-- A text is the written form of a signature: an identifier, then a balanced parameter list in
parentheses, with white space around any of the parts. -/
def Written (text : List Char) (signature : Signature) : Prop :=
  ∃ beforeOpening parameters,
    Split (Text.trim text) beforeOpening parameters ∧
      Text.trim beforeOpening = signature.name.toList ∧
      Name.isIdentifier signature.name.toList = true ∧
      Balanced parameters ∧
      Lists parameters signature.parameterTypes

/-- What is wrong first with a text without outer white space. -/
inductive Faulty (text : List Char) : Malformation → Prop where
  /-- No opening parenthesis. -/
  | noOpening (missing : '(' ∉ text) : Faulty text (.noOpening (String.ofList text))
  /-- An opening parenthesis, but no closing one at the end. -/
  | noClosing (present : '(' ∈ text) (ends : text.getLast? ≠ some ')') :
      Faulty text (.noClosing (String.ofList text))
  /-- Something other than an identifier in front of the parenthesis. -/
  | invalidName {beforeOpening parameters : List Char} (split : Split text beforeOpening parameters)
      (invalid : Name.isIdentifier (Text.trim beforeOpening) = false) :
      Faulty text (.invalidName (String.ofList (Text.trim beforeOpening)))
  /-- More closing than opening angle brackets before some point of the parameters. -/
  | unmatchedClosing {beforeOpening parameters front back : List Char}
      (split : Split text beforeOpening parameters)
      (named : Name.isIdentifier (Text.trim beforeOpening) = true)
      (point : parameters = front ++ back) (uncovered : front.count '<' < front.count '>') :
      Faulty text (.unmatchedClosing (String.ofList text))
  /-- More opening than closing angle brackets in all parameters. -/
  | unmatchedOpening {beforeOpening parameters : List Char}
      (split : Split text beforeOpening parameters)
      (named : Name.isIdentifier (Text.trim beforeOpening) = true)
      (covered : ∀ front back, parameters = front ++ back → front.count '>' ≤ front.count '<')
      (more : parameters.count '>' < parameters.count '<') :
      Faulty text (.unmatchedOpening (String.ofList text))
  /-- A piece of the parameters that is blank, though not all of them are. -/
  | emptyParameter {beforeOpening parameters : List Char} (split : Split text beforeOpening parameters)
      (named : Name.isIdentifier (Text.trim beforeOpening) = true) (balanced : Balanced parameters)
      (some : ¬Text.Blank parameters) (blank : ∃ piece ∈ piecesAtLevel parameters, Text.Blank piece) :
      Faulty text (.emptyParameter (String.ofList text))

/-! ## Where a text falls apart -/

/-- A text falls apart in one way. -/
theorem Split.unique {text beforeOpening parameters before between : List Char}
    (split : Split text beforeOpening parameters) (also : Split text before between) :
    beforeOpening = before ∧ parameters = between := by
  have cut := Text.cutAtFirst_eq_some_iff.mpr ⟨split.whole, split.first⟩
  rw [Text.cutAtFirst_eq_some_iff.mpr ⟨also.whole, also.first⟩] at cut
  obtain ⟨rfl, same⟩ := Prod.mk.inj (Option.some.inj cut)
  exact ⟨rfl, (List.append_cancel_right same).symm⟩

theorem mem_of_split {text beforeOpening parameters : List Char}
    (split : Split text beforeOpening parameters) : '(' ∈ text := by
  rw [split.whole]
  simp

theorem getLast?_of_split {text beforeOpening parameters : List Char}
    (split : Split text beforeOpening parameters) : text.getLast? = some ')' := by
  rw [split.whole, ← List.cons_append, ← List.append_assoc]
  exact List.getLast?_concat

theorem split_cases (text : List Char) :
    '(' ∉ text ∨ ('(' ∈ text ∧ text.getLast? ≠ some ')') ∨
      ∃ beforeOpening parameters, Split text beforeOpening parameters := by
  by_cases present : '(' ∈ text
  · by_cases ends : text.getLast? = some ')'
    · refine .inr (.inr ?_)
      cases cut : Text.cutAtFirst '(' text with
      | none => exact absurd present (Text.cutAtFirst_eq_none_iff.mp cut)
      | some parts =>
          obtain ⟨beforeOpening, afterOpening⟩ := parts
          obtain ⟨whole, first⟩ := Text.cutAtFirst_eq_some_iff.mp cut
          rw [whole, List.getLast?_append, List.getLast?_cons] at ends
          cases closes : afterOpening.getLast? with
          | none => simp [closes] at ends
          | some last =>
              obtain ⟨parameters, rfl⟩ := List.getLast?_eq_some_iff.mp closes
              obtain rfl : last = ')' := by simpa using ends
              exact ⟨beforeOpening, parameters, whole, first⟩
    · exact .inr (.inl ⟨present, ends⟩)
  · exact .inl present

/-! ## The reader, part by part -/

theorem ofTrimmed_of_notMem {text : List Char} (missing : '(' ∉ text) :
    ofTrimmed text = .error (.noOpening (String.ofList text)) := by
  rw [ofTrimmed, Text.cutAtFirst_eq_none_iff.mpr missing]

theorem ofTrimmed_of_getLast? {text : List Char} (present : '(' ∈ text)
    (ends : text.getLast? ≠ some ')') :
    ofTrimmed text = .error (.noClosing (String.ofList text)) := by
  rw [ofTrimmed]
  split
  · rename_i cut
    exact absurd present (Text.cutAtFirst_eq_none_iff.mp cut)
  · rw [if_pos ends]

theorem ofTrimmed_of_split {text beforeOpening parameters : List Char}
    (split : Split text beforeOpening parameters) :
    ofTrimmed text =
      if Name.isIdentifier (Text.trim beforeOpening) then
        match cutParameters 0 parameters with
        | .error imbalance => .error (imbalance.malformation (String.ofList text))
        | .ok parts =>
            if (typesOfPieces parts).any List.isEmpty then
              .error (.emptyParameter (String.ofList text))
            else
              .ok
                { name := String.ofList (Text.trim beforeOpening)
                  parameterTypes := (typesOfPieces parts).map String.ofList }
      else
        .error (.invalidName (String.ofList (Text.trim beforeOpening))) := by
  rw [ofTrimmed, Text.cutAtFirst_eq_some_iff.mpr ⟨split.whole, split.first⟩]
  simp only [getLast?_of_split split, ne_eq, not_true_eq_false, if_false, List.dropLast_concat]
  cases Name.isIdentifier (Text.trim beforeOpening) with
  | false => rfl
  | true => rfl

theorem typesOfPieces_eq (parts : List (List Char)) :
    typesOfPieces parts =
      if parts.map Text.trim = [[]] then [] else parts.map Text.trim := by
  rw [typesOfPieces]
  split
  · rename_i blank
    rw [if_pos blank]
  · rename_i some
    rw [if_neg some]

/-- The trimmed pieces of a list are one empty text exactly if the list is blank. -/
theorem map_trim_piecesAtLevel_iff {parameters : List Char} :
    (piecesAtLevel parameters).map Text.trim = [[]] ↔ Text.Blank parameters := by
  constructor
  · intro empty
    obtain ⟨piece, single, trimmed⟩ := List.map_eq_singleton_iff.mp empty
    have joined := intercalate_piecesBehind [] parameters
    rw [← piecesAtLevel, single, List.intercalate_singleton] at joined
    rw [← joined]
    exact Text.trim_eq_nil_iff.mp trimmed
  · intro blank
    have plain : ',' ∉ parameters := by
      intro member
      have white := blank ',' member
      exact absurd white (by decide)
    rw [piecesAtLevel, piecesBehind_of_notMem [] plain, List.map_singleton,
      Text.trim_eq_nil_iff.mpr blank]

/-- What a list names is what the reader makes of its pieces, if no type is empty. -/
theorem lists_iff {parameters : List Char} {types : List String} :
    Lists parameters types ↔
      types.map String.toList = typesOfPieces (piecesAtLevel parameters) ∧
        (typesOfPieces (piecesAtLevel parameters)).any List.isEmpty = false := by
  rw [typesOfPieces_eq]
  by_cases blank : Text.Blank parameters
  · have single := map_trim_piecesAtLevel_iff.mpr blank
    rw [if_pos single, Lists, single]
    constructor
    · rintro (⟨-, rfl⟩ | ⟨listed, some⟩)
      · exact ⟨rfl, rfl⟩
      · obtain ⟨type, rfl, empty⟩ := List.map_eq_singleton_iff.mp listed
        exact absurd (String.toList_eq_nil_iff.mp empty) (some type List.mem_cons_self)
    · rintro ⟨listed, -⟩
      exact .inl ⟨blank, List.map_eq_nil_iff.mp listed⟩
  · rw [if_neg (mt map_trim_piecesAtLevel_iff.mp blank), Lists]
    constructor
    · rintro (⟨impossible, -⟩ | ⟨listed, some⟩)
      · exact absurd impossible blank
      · refine ⟨listed, ?_⟩
        rw [← listed, List.any_eq_false]
        intro type member empty
        obtain ⟨text, among, rfl⟩ := List.mem_map.mp member
        exact some text among (String.toList_eq_nil_iff.mp (List.isEmpty_iff.mp empty))
    · rintro ⟨listed, some⟩
      refine .inr ⟨listed, ?_⟩
      rintro type member rfl
      rw [← listed, List.any_eq_false] at some
      exact some [] (List.mem_map.mpr ⟨"", member, rfl⟩) rfl

/-- A parameter list has a blank piece, without being blank, exactly if the reader finds an empty
type. -/
theorem any_isEmpty_typesOfPieces_iff {parameters : List Char} :
    (typesOfPieces (piecesAtLevel parameters)).any List.isEmpty = true ↔
      ¬Text.Blank parameters ∧ ∃ piece ∈ piecesAtLevel parameters, Text.Blank piece := by
  rw [typesOfPieces_eq]
  by_cases blank : Text.Blank parameters
  · rw [if_pos (map_trim_piecesAtLevel_iff.mpr blank)]
    simp [blank]
  · rw [if_neg (mt map_trim_piecesAtLevel_iff.mp blank), List.any_map, List.any_eq_true]
    simp only [blank, not_false_eq_true, true_and, Function.comp_apply, List.isEmpty_iff,
      Text.trim_eq_nil_iff]

/-! ## What is read and what is refused -/

theorem ofTrimmed_trim_eq_ok_iff {text : List Char} {signature : Signature} :
    ofTrimmed (Text.trim text) = .ok signature ↔ Written text signature := by
  rw [Written]
  rcases split_cases (Text.trim text) with missing | ⟨present, ends⟩ | ⟨beforeOpening, parameters, split⟩
  · rw [ofTrimmed_of_notMem missing]
    constructor
    · nofun
    · rintro ⟨_, _, split, -⟩
      exact absurd (mem_of_split split) missing
  · rw [ofTrimmed_of_getLast? present ends]
    constructor
    · nofun
    · rintro ⟨_, _, split, -⟩
      exact absurd (getLast?_of_split split) ends
  · rw [ofTrimmed_of_split split]
    constructor
    · intro read
      split at read
      · rename_i named
        split at read
        · cases read
        · rename_i parts cut
          obtain ⟨balanced, rfl⟩ := cutParameters_eq_ok_iff.mp cut
          split at read
          · cases read
          · rename_i some
            cases read
            refine ⟨beforeOpening, parameters, split, ?_, ?_, balanced, lists_iff.mpr ⟨?_, ?_⟩⟩
            · exact String.toList_ofList.symm
            · rw [String.toList_ofList]
              exact named
            · rw [List.map_map]
              refine List.map_id'' (fun type => ?_) _
              exact String.toList_ofList
            · exact Bool.not_eq_true _ ▸ some
      · cases read
    · rintro ⟨before, between, also, named, identifier, balanced, lists⟩
      obtain ⟨rfl, rfl⟩ := split.unique also
      obtain ⟨listed, some⟩ := lists_iff.mp lists
      have texts : (signature.parameterTypes.map String.toList).map String.ofList =
          signature.parameterTypes := by
        rw [List.map_map]
        exact List.map_id'' (fun type => String.ofList_toList) _
      rw [← listed] at some
      rw [named, if_pos identifier, cutParameters_eq_ok_iff.mpr ⟨balanced, rfl⟩]
      simp only [some, Bool.false_eq_true, if_false, ← listed, texts, String.ofList_toList]

/-- The reader refuses a text for what is wrong with it first. -/
theorem ofTrimmed_eq_error_iff {text : List Char} {malformation : Malformation} :
    ofTrimmed text = .error malformation ↔ Faulty text malformation := by
  constructor
  · intro refused
    rcases split_cases text with missing | ⟨present, ends⟩ | ⟨beforeOpening, parameters, split⟩
    · rw [ofTrimmed_of_notMem missing] at refused
      cases refused
      exact .noOpening missing
    · rw [ofTrimmed_of_getLast? present ends] at refused
      cases refused
      exact .noClosing present ends
    · rw [ofTrimmed_of_split split] at refused
      split at refused
      · rename_i named
        split at refused
        · rename_i imbalance cut
          cases refused
          cases imbalance with
          | closing =>
              obtain ⟨front, back, point, uncovered⟩ := cutParameters_eq_closing_iff.mp cut
              exact .unmatchedClosing split named point uncovered
          | opening =>
              obtain ⟨covered, more⟩ := cutParameters_eq_opening_iff.mp cut
              exact .unmatchedOpening split named covered more
        · rename_i parts cut
          obtain ⟨balanced, rfl⟩ := cutParameters_eq_ok_iff.mp cut
          split at refused
          · rename_i empty
            cases refused
            obtain ⟨some, blank⟩ := any_isEmpty_typesOfPieces_iff.mp empty
            exact .emptyParameter split named balanced some blank
          · cases refused
      · rename_i invalid
        cases refused
        exact .invalidName split (Bool.not_eq_true _ ▸ invalid)
  · intro faulty
    cases faulty with
    | noOpening missing => exact ofTrimmed_of_notMem missing
    | noClosing present ends => exact ofTrimmed_of_getLast? present ends
    | invalidName split invalid => rw [ofTrimmed_of_split split, if_neg (by simp [invalid])]
    | unmatchedClosing split named point uncovered =>
        rw [ofTrimmed_of_split split, if_pos named,
          cutParameters_eq_closing_iff.mpr ⟨_, _, point, uncovered⟩]
        rfl
    | unmatchedOpening split named covered more =>
        rw [ofTrimmed_of_split split, if_pos named, cutParameters_eq_opening_iff.mpr ⟨covered, more⟩]
        rfl
    | emptyParameter split named balanced some blank =>
        rw [ofTrimmed_of_split split, if_pos named, cutParameters_eq_ok_iff.mpr ⟨balanced, rfl⟩]
        simp only [any_isEmpty_typesOfPieces_iff.mpr ⟨some, blank⟩, if_true]

end Signature
end FragmentAssembly
