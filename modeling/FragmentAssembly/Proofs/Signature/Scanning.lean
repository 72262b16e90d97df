import FragmentAssembly.Proofs.Signature.Grammar
import FragmentAssembly.Proofs.Text.Offsets

/-!
# Reading signatures by offsets

A reader can go through a parameter list once, with the offset where the next type starts, and slice a
type out of the list when it comes to its comma. A slice has no value if it ends inside a character or
behind the end of the text. All slices that such a reader takes have one, and it finds what the reader
of the list finds.
-/

namespace FragmentAssembly
namespace Signature

/-- The types found in front of the last one, and the last one unless it is the only one and empty. -/
def withLast (found : List (List Char)) (last : List Char) : List (List Char) :=
  if last = [] ∧ found = [] then [] else found ++ [last]

/-- Go through the rest of a parameter list from an offset, with the number of open angle brackets, the
offset where the next type starts and the types found. There is no value if a slice has none. -/
def scan (parameters : List Char) (offset depth start : Nat) (found : List (List Char)) :
    List Char → Option (Except Imbalance (List (List Char)))
  | [] =>
      if depth = 0 then
        (Text.sliceFrom? parameters start).map fun last => .ok (withLast found (Text.trim last))
      else
        some (.error .opening)
  | character :: rest =>
      if character = '<' then
        scan parameters (offset + character.utf8Size) (depth + 1) start found rest
      else if character = '>' then
        match depth with
        | 0 => some (.error .closing)
        | outer + 1 => scan parameters (offset + character.utf8Size) outer start found rest
      else if character = ',' ∧ depth = 0 then
        (Text.slice? parameters start offset).bind fun type =>
          scan parameters (offset + character.utf8Size) depth (offset + 1)
            (found ++ [Text.trim type]) rest
      else
        scan parameters (offset + character.utf8Size) depth start found rest

/-- The signature that a text without outer white space denotes, with every part sliced out of the text
by offsets. There is no value if a slice has none. -/
def ofTrimmedByOffsets (text : List Char) : Option (Except Malformation Signature) :=
  match Text.offsetOf? '(' text with
  | none => some (.error (.noOpening (String.ofList text)))
  | some opening =>
      if text.getLast? ≠ some ')' then
        some (.error (.noClosing (String.ofList text)))
      else
        (Text.slice? text 0 opening).bind fun beforeOpening =>
          if !Name.isIdentifier (Text.trim beforeOpening) then
            some (.error (.invalidName (String.ofList (Text.trim beforeOpening))))
          else
            (Text.slice? text (opening + 1) (Text.byteLength text - 1)).bind fun parameters =>
              (scan parameters 0 0 0 [] parameters).map fun
                | .error imbalance => .error (imbalance.malformation (String.ofList text))
                | .ok types =>
                    if types.any List.isEmpty then
                      .error (.emptyParameter (String.ofList text))
                    else
                      .ok
                        { name := String.ofList (Text.trim beforeOpening)
                          parameterTypes := types.map String.ofList }

/-- The signature that a text denotes, with every part sliced out of the text by offsets. -/
def parseByOffsets (text : String) : Option (Except Malformation Signature) :=
  ofTrimmedByOffsets (Text.trim text.toList)

/-! ## The loop -/

/-- A list of types, or none if there is a single one and that is empty. -/
def withoutBlank (types : List (List Char)) : List (List Char) :=
  if types = [[]] then [] else types

theorem withLast_eq (found : List (List Char)) (last : List Char) :
    withLast found last = withoutBlank (found ++ [last]) := by
  cases found with
  | nil => simp [withLast, withoutBlank]
  | cons first others => simp [withLast, withoutBlank]

theorem prepend_concat (pending : List Char) (character : Char) (parts : List (List Char)) :
    prepend (pending ++ [character]) parts = prepend pending (Text.extendFirst character parts) := by
  rw [prepend, List.foldr_append, List.foldr_cons, List.foldr_nil, prepend]

theorem byteLength_concat (text : List Char) (character : Char) :
    Text.byteLength (text ++ [character]) = Text.byteLength text + character.utf8Size := by
  rw [Text.byteLength_append, Text.byteLength, Text.byteLength, Nat.add_zero]

/-- The types that the loop comes to when it has found some, has passed a pending text and goes on to
given pieces. -/
def comesTo (found : List (List Char)) (pending : List Char) (parts : List (List Char)) :
    List (List Char) :=
  withoutBlank (found ++ (prepend pending parts).map Text.trim)

/-- The loop goes through the rest of a list as the reader of the list does, whatever is pending in front
of the rest. What the loop has passed is the part it has cut off already and the pending part. -/
def Scans (done rest : List Char) (depth : Nat) (found : List (List Char)) : Prop :=
  ∀ pending,
    scan (done ++ (pending ++ rest)) (Text.byteLength done + Text.byteLength pending) depth
        (Text.byteLength done) found rest =
      some ((cutParameters depth rest).map (comesTo found pending))

theorem map_comesTo_extendFirst (found : List (List Char)) (pending : List Char) (character : Char)
    (result : Except Imbalance (List (List Char))) :
    (result.map (Text.extendFirst character)).map (comesTo found pending) =
      result.map (comesTo found (pending ++ [character])) := by
  cases result with
  | error imbalance => rfl
  | ok parts =>
      change Except.ok _ = Except.ok _
      rw [comesTo, comesTo, prepend_concat]

theorem map_comesTo_cut (found : List (List Char)) (pending : List Char)
    (result : Except Imbalance (List (List Char))) :
    (result.map ([] :: ·)).map (comesTo found pending) =
      result.map (comesTo (found ++ [Text.trim pending]) []) := by
  cases result with
  | error imbalance => rfl
  | ok parts =>
      change Except.ok _ = Except.ok _
      rw [comesTo, comesTo, prepend_cons, List.append_nil, List.map_cons, List.append_assoc]
      rfl

/-- A character that is no cut goes from the rest to the end of the pending part. -/
theorem Scans.pass {done others : List Char} {deeper : Nat} {found : List (List Char)}
    (scans : Scans done others deeper found) (pending : List Char) (character : Char) :
    scan (done ++ (pending ++ character :: others))
        (Text.byteLength done + Text.byteLength pending + character.utf8Size) deeper
        (Text.byteLength done) found others =
      some (((cutParameters deeper others).map (Text.extendFirst character)).map
        (comesTo found pending)) := by
  have passed := scans (pending ++ [character])
  rw [byteLength_concat, ← Nat.add_assoc, List.append_assoc, List.singleton_append] at passed
  rw [passed, map_comesTo_extendFirst]

/-- A cut takes the pending part off, and nothing is pending behind it. -/
theorem Scans.cut {done pending others : List Char} {found : List (List Char)}
    (scans : Scans (done ++ (pending ++ [','])) others 0 (found ++ [Text.trim pending])) :
    scan (done ++ (pending ++ ',' :: others)) (Text.byteLength done + Text.byteLength pending + 1) 0
        (Text.byteLength done + Text.byteLength pending + 1) (found ++ [Text.trim pending]) others =
      some (((cutParameters 0 others).map ([] :: ·)).map (comesTo found pending)) := by
  have length : Text.byteLength (done ++ (pending ++ [','])) =
      Text.byteLength done + Text.byteLength pending + 1 := by
    rw [Text.byteLength_append, byteLength_concat, ← Nat.add_assoc]
    rfl
  have scanned := scans []
  rw [length, List.nil_append, List.append_assoc, List.append_assoc, List.singleton_append] at scanned
  rw [map_comesTo_cut]
  exact scanned

/-- Every slice of the loop has a value, and the loop finds the pieces of the list. -/
theorem scans (rest : List Char) (done : List Char) (depth : Nat) (found : List (List Char)) :
    Scans done rest depth found := by
  induction depth, rest using cutParameters.induct generalizing done found with
  | case1 =>
      intro pending
      have ends : comesTo found pending [[]] = withLast found (Text.trim pending) := by
        rw [comesTo, prepend_cons, List.append_nil, List.map_singleton, withLast_eq]
      rw [scan, if_pos rfl, List.append_nil, Text.sliceFrom?_append, Option.map_some, ← ends]
      rfl
  | case2 depth some =>
      intro pending
      rw [scan, if_neg some, cutParameters, if_neg some]
      rfl
  | case3 depth others ih =>
      intro pending
      exact (ih done found).pass pending '<'
  | case4 others =>
      intro pending
      rfl
  | case5 others outer _ ih =>
      intro pending
      exact (ih done found).pass pending '>'
  | case6 depth character others opens closes cuts ih =>
      intro pending
      obtain ⟨rfl, rfl⟩ := cuts
      rw [scan.eq_def, cutParameters.eq_def]
      simp only [opens, closes, and_self, if_true, if_false, Text.slice?_append, Option.bind_some]
      exact Scans.cut (ih _ _)
  | case7 depth character others opens closes keeps ih =>
      intro pending
      rw [scan.eq_def, cutParameters.eq_def]
      simp only [opens, closes, keeps, if_false]
      exact (ih done found).pass pending character

/-! ## The reader -/

theorem withoutBlank_map_trim (parts : List (List Char)) :
    withoutBlank (parts.map Text.trim) = typesOfPieces parts :=
  (typesOfPieces_eq parts).symm

theorem scan_start (parameters : List Char) :
    scan parameters 0 0 0 [] parameters = some ((cutParameters 0 parameters).map typesOfPieces) := by
  have scanned := scans parameters [] 0 [] []
  have found : comesTo [] [] = typesOfPieces := funext withoutBlank_map_trim
  rw [found] at scanned
  exact scanned

theorem offsets_of_split {text beforeOpening parameters : List Char}
    (split : Split text beforeOpening parameters) :
    Text.offsetOf? '(' text = some (Text.byteLength beforeOpening) ∧
      Text.slice? text 0 (Text.byteLength beforeOpening) = some beforeOpening ∧
      Text.slice? text (Text.byteLength beforeOpening + 1) (Text.byteLength text - 1) =
        some parameters := by
  obtain ⟨rfl, first⟩ := split
  refine ⟨Text.offsetOf?_append first _, ?_, ?_⟩
  · have front := Text.slice?_append [] beforeOpening ('(' :: (parameters ++ [')']))
    rw [Text.byteLength, Nat.zero_add] at front
    exact front
  · have opening : Text.byteLength (beforeOpening ++ ['(']) = Text.byteLength beforeOpening + 1 :=
      byteLength_concat beforeOpening '('
    have closing : Text.byteLength (beforeOpening ++ '(' :: (parameters ++ [')'])) - 1 =
        Text.byteLength beforeOpening + 1 + Text.byteLength parameters := by
      rw [Text.byteLength_append, Text.byteLength, byteLength_concat]
      have width : '('.utf8Size = 1 ∧ ')'.utf8Size = 1 := by decide
      omega
    have middle := Text.slice?_append (beforeOpening ++ ['(']) parameters [')']
    rw [opening, List.append_assoc, List.singleton_append] at middle
    rw [closing, middle]

/-- Every slice of the reader by offsets has a value, and it reads what the reader of lists reads. -/
theorem ofTrimmedByOffsets_eq (text : List Char) : ofTrimmedByOffsets text = some (ofTrimmed text) := by
  rw [ofTrimmedByOffsets]
  rcases split_cases text with missing | ⟨present, ends⟩ | ⟨beforeOpening, parameters, split⟩
  · rw [Text.offsetOf?_of_notMem missing, ofTrimmed_of_notMem missing]
  · obtain ⟨beforeOpening, afterOpening, rfl, first⟩ := List.eq_append_cons_of_mem present
    rw [Text.offsetOf?_append first, ofTrimmed_of_getLast? present ends]
    exact if_pos ends
  · obtain ⟨opening, front, between⟩ := offsets_of_split split
    simp only [opening, getLast?_of_split split, ne_eq, not_true_eq_false, if_false, front,
      Option.bind_some, between, scan_start, Option.map_some, ofTrimmed_of_split split]
    cases Name.isIdentifier (Text.trim beforeOpening) with
    | false => rfl
    | true =>
        cases cutParameters 0 parameters with
        | error imbalance => rfl
        | ok parts => rfl

theorem parse_eq_ok_iff {text : String} {signature : Signature} :
    parse text = .ok signature ↔ Written text.toList signature :=
  ofTrimmed_trim_eq_ok_iff

/-- Exactly the written form of a signature is read as that signature; any other text is an invalid
argument, with the first thing that is wrong with it, and no slice is taken out of bounds or inside a
character. -/
theorem reads_exactly_written (text : String) :
    (∀ signature, parse text = .ok signature ↔ Written text.toList signature) ∧
      (∀ malformation, parse text = .error malformation ↔ Faulty (Text.trim text.toList) malformation) ∧
      ((∀ signature, ¬Written text.toList signature) →
        ∃ message, (parse text).mapError Error.malformedSignature = .error (.invalidArgument message)) ∧
      parseByOffsets text = some (parse text) := by
  refine ⟨fun signature => parse_eq_ok_iff, fun malformation => ofTrimmed_eq_error_iff, ?_,
    ofTrimmedByOffsets_eq _⟩
  intro unwritten
  cases read : parse text with
  | ok signature => exact absurd (parse_eq_ok_iff.mp read) (unwritten signature)
  | error malformation => exact ⟨malformation.message, rfl⟩

end Signature
end FragmentAssembly
