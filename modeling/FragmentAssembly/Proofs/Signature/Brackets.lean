import FragmentAssembly.Proofs.Text.Pieces
import FragmentAssembly.Signature.Parser

/-!
# Angle brackets and commas

A parameter list is cut at the commas in front of which all angle brackets are closed. That is said here
in two ways: by where the commas stand in the list, and by what the pieces are like. The reader carries
the number of open brackets, and so most facts are about a text that starts with some brackets open.
-/

namespace FragmentAssembly
namespace Signature

/-- With `depth` brackets open in front of a text, no point of the text has more closing than opening
brackets before it. -/
def CoveredFrom (depth : Nat) (text : List Char) : Prop :=
  ∀ front back, text = front ++ back → front.count '>' ≤ depth + front.count '<'

/-- Angle brackets are balanced: no point has more closing than opening ones before it, and there are
equally many in all. -/
structure Balanced (text : List Char) : Prop where
  covered : ∀ front back, text = front ++ back → front.count '>' ≤ front.count '<'
  level : text.count '<' = text.count '>'

theorem coveredFrom_nil (depth : Nat) : CoveredFrom depth [] := by
  intro front back whole
  rw [(List.append_eq_nil_iff.mp whole.symm).1]
  exact Nat.zero_le _

theorem coveredFrom_cons {depth : Nat} {character : Char} {rest : List Char} :
    CoveredFrom depth (character :: rest) ↔
      ∀ front back, rest = front ++ back →
        (character :: front).count '>' ≤ depth + (character :: front).count '<' := by
  constructor
  · intro covered front back whole
    exact covered (character :: front) back (by rw [whole, List.cons_append])
  · intro covered front back whole
    cases front with
    | nil => exact Nat.zero_le _
    | cons first others =>
        obtain ⟨rfl, behind⟩ := List.cons.inj whole
        exact covered others back behind

@[simp]
theorem coveredFrom_opening {depth : Nat} {rest : List Char} :
    CoveredFrom depth ('<' :: rest) ↔ CoveredFrom (depth + 1) rest := by
  rw [coveredFrom_cons, CoveredFrom]
  refine forall₂_congr fun front back => imp_congr_right fun _ => ?_
  simp only [List.count_cons_self, List.count_cons_of_ne (by decide : '<' ≠ '>')]
  omega

@[simp]
theorem coveredFrom_closing {depth : Nat} {rest : List Char} :
    CoveredFrom (depth + 1) ('>' :: rest) ↔ CoveredFrom depth rest := by
  rw [coveredFrom_cons, CoveredFrom]
  refine forall₂_congr fun front back => imp_congr_right fun _ => ?_
  simp only [List.count_cons_self, List.count_cons_of_ne (by decide : '>' ≠ '<')]
  omega

theorem not_coveredFrom_closing {rest : List Char} : ¬CoveredFrom 0 ('>' :: rest) := by
  intro covered
  have first := covered ['>'] rest rfl
  simp at first

theorem coveredFrom_other {depth : Nat} {character : Char} {rest : List Char}
    (opens : character ≠ '<') (closes : character ≠ '>') :
    CoveredFrom depth (character :: rest) ↔ CoveredFrom depth rest := by
  rw [coveredFrom_cons, CoveredFrom]
  simp only [List.count_cons_of_ne opens, List.count_cons_of_ne closes]

theorem balanced_iff {text : List Char} :
    Balanced text ↔ CoveredFrom 0 text ∧ text.count '<' = text.count '>' := by
  constructor
  · rintro ⟨covered, level⟩
    exact ⟨fun front back whole => by simpa using covered front back whole, level⟩
  · rintro ⟨covered, level⟩
    exact ⟨fun front back whole => by simpa using covered front back whole, level⟩

/-- Whether a text is covered, decided from the front. -/
def decideCoveredFrom (depth : Nat) : (text : List Char) → Decidable (CoveredFrom depth text)
  | [] => isTrue (coveredFrom_nil depth)
  | character :: rest =>
      if opens : character = '<' then
        let _ := decideCoveredFrom (depth + 1) rest
        decidable_of_iff (CoveredFrom (depth + 1) rest) (by rw [opens, coveredFrom_opening])
      else if closes : character = '>' then
        match depth with
        | 0 => isFalse (by rw [closes]; exact not_coveredFrom_closing)
        | outer + 1 =>
            let _ := decideCoveredFrom outer rest
            decidable_of_iff (CoveredFrom outer rest) (by rw [closes, coveredFrom_closing])
      else
        let _ := decideCoveredFrom depth rest
        decidable_of_iff (CoveredFrom depth rest) (coveredFrom_other opens closes).symm

instance (depth : Nat) (text : List Char) : Decidable (CoveredFrom depth text) :=
  decideCoveredFrom depth text

instance (text : List Char) : Decidable (Balanced text) :=
  decidable_of_iff _ balanced_iff.symm

/-! ## Cuts by position -/

/-- The characters of a text that stands behind a front, each with all that stands before it. -/
def withFronts (front : List Char) : List Char → List (List Char × Char)
  | [] => []
  | character :: rest => (front, character) :: withFronts (front ++ [character]) rest

/-- Whether a character with its front is a comma that has equally many opening and closing angle
brackets before it. -/
def isCut : List Char × Char → Bool := fun (front, character) =>
  character = ',' && front.count '<' = front.count '>'

/-- The pieces of a text that stands behind a front, cut at exactly the commas that have equally many
opening and closing angle brackets before them. -/
def piecesBehind (front text : List Char) : List (List Char) :=
  ((withFronts front text).splitOnP isCut).map fun piece => piece.map Prod.snd

/-- The pieces of a text, cut at exactly the commas that have equally many opening and closing angle
brackets before them. -/
def piecesAtLevel (text : List Char) : List (List Char) :=
  piecesBehind [] text

theorem piecesBehind_nil (front : List Char) : piecesBehind front [] = [[]] :=
  rfl

theorem piecesBehind_ne_nil (front text : List Char) : piecesBehind front text ≠ [] := by
  rw [piecesBehind, ne_eq, List.map_eq_nil_iff]
  exact List.splitOnP_ne_nil isCut _

theorem piecesBehind_cons (front : List Char) (character : Char) (rest : List Char) :
    piecesBehind front (character :: rest) =
      if character = ',' ∧ front.count '<' = front.count '>' then
        [] :: piecesBehind (front ++ [character]) rest
      else
        Text.extendFirst character (piecesBehind (front ++ [character]) rest) := by
  rw [Text.extendFirst_of_ne_nil character (piecesBehind_ne_nil _ rest)]
  simp only [piecesBehind, withFronts, List.splitOnP_cons_eq_if_modifyHead, isCut,
    Bool.and_eq_true, decide_eq_true_eq]
  split
  · rfl
  · cases (withFronts (front ++ [character]) rest).splitOnP isCut <;> rfl

theorem intercalate_piecesBehind (front text : List Char) :
    [','].intercalate (piecesBehind front text) = text := by
  induction text generalizing front with
  | nil => rfl
  | cons character rest ih =>
      have behind := ih (front ++ [character])
      rw [piecesBehind_cons]
      split
      · rename_i cut
        rw [List.intercalate_cons_of_ne_nil (piecesBehind_ne_nil _ rest), behind, cut.1]
        rfl
      · cases found : piecesBehind (front ++ [character]) rest with
        | nil => exact absurd found (piecesBehind_ne_nil _ rest)
        | cons piece others =>
            rw [found] at behind
            rw [Text.extendFirst, List.intercalate_cons_cons_left, behind]

theorem piecesBehind_of_notMem (front : List Char) {text : List Char} (plain : ',' ∉ text) :
    piecesBehind front text = [text] := by
  induction text generalizing front with
  | nil => rfl
  | cons character rest ih =>
      rw [List.mem_cons, not_or] at plain
      rw [piecesBehind_cons, if_neg (fun cut => plain.1 cut.1.symm), ih _ plain.2]
      rfl

/-! ## What the reader finds -/

/-- Given pieces of a text, unless its brackets are not balanced. -/
def verdict (depth : Nat) (text : List Char) (parts : List (List Char)) :
    Except Imbalance (List (List Char)) :=
  if CoveredFrom depth text then
    if depth + text.count '<' = text.count '>' then
      .ok parts
    else
      .error .opening
  else
    .error .closing

theorem map_verdict (change : List (List Char) → List (List Char)) (depth : Nat) (text : List Char)
    (parts : List (List Char)) :
    (verdict depth text parts).map change = verdict depth text (change parts) := by
  simp only [verdict]
  split
  · split
    · rfl
    · rfl
  · rfl

theorem verdict_opening (depth : Nat) (rest : List Char) (parts : List (List Char)) :
    verdict depth ('<' :: rest) parts = verdict (depth + 1) rest parts := by
  have counted : depth + ('<' :: rest).count '<' = ('<' :: rest).count '>' ↔
      depth + 1 + rest.count '<' = rest.count '>' := by
    simp only [List.count_cons_self, List.count_cons_of_ne (by decide : '<' ≠ '>')]
    omega
  simp only [verdict, coveredFrom_opening, counted]

theorem verdict_closing (depth : Nat) (rest : List Char) (parts : List (List Char)) :
    verdict (depth + 1) ('>' :: rest) parts = verdict depth rest parts := by
  have counted : depth + 1 + ('>' :: rest).count '<' = ('>' :: rest).count '>' ↔
      depth + rest.count '<' = rest.count '>' := by
    simp only [List.count_cons_self, List.count_cons_of_ne (by decide : '>' ≠ '<')]
    omega
  simp only [verdict, coveredFrom_closing, counted]

theorem verdict_other {character : Char} (opens : character ≠ '<') (closes : character ≠ '>')
    (depth : Nat) (rest : List Char) (parts : List (List Char)) :
    verdict depth (character :: rest) parts = verdict depth rest parts := by
  simp only [verdict, coveredFrom_other opens closes, List.count_cons_of_ne opens,
    List.count_cons_of_ne closes]

/-- The reader cuts a parameter list by position, unless its brackets are not balanced. -/
theorem cutParameters_eq (text : List Char) {depth : Nat} {front : List Char}
    (opened : front.count '<' = depth + front.count '>') :
    cutParameters depth text = verdict depth text (piecesBehind front text) := by
  fun_induction cutParameters depth text generalizing front with
  | case1 => simp [verdict, coveredFrom_nil, piecesBehind_nil]
  | case2 depth some => simp [verdict, coveredFrom_nil, some]
  | case3 depth rest ih =>
      have deeper : (front ++ ['<']).count '<' = (depth + 1) + (front ++ ['<']).count '>' := by
        simp [opened]
        omega
      have kept : piecesBehind front ('<' :: rest) =
          Text.extendFirst '<' (piecesBehind (front ++ ['<']) rest) := by
        rw [piecesBehind_cons, if_neg (by simp)]
      rw [ih deeper, map_verdict, verdict_opening, kept]
  | case4 rest => rw [verdict, if_neg not_coveredFrom_closing]
  | case5 rest outer _ ih =>
      have shallower : (front ++ ['>']).count '<' = outer + (front ++ ['>']).count '>' := by
        simp [opened]
        omega
      have kept : piecesBehind front ('>' :: rest) =
          Text.extendFirst '>' (piecesBehind (front ++ ['>']) rest) := by
        rw [piecesBehind_cons, if_neg (by simp)]
      rw [ih shallower, map_verdict, verdict_closing, kept]
  | case6 depth character rest opens closes cuts ih =>
      obtain ⟨rfl, rfl⟩ := cuts
      have same : (front ++ [',']).count '<' = 0 + (front ++ [',']).count '>' := by
        simp [opened]
      have cut : piecesBehind front (',' :: rest) = [] :: piecesBehind (front ++ [',']) rest := by
        rw [piecesBehind_cons, if_pos ⟨rfl, by simpa using opened⟩]
      rw [ih same, map_verdict, verdict_other opens closes, cut]
  | case7 depth character rest opens closes keeps ih =>
      have same : (front ++ [character]).count '<' = depth + (front ++ [character]).count '>' := by
        simp [opened, opens, closes]
      have kept : piecesBehind front (character :: rest) =
          Text.extendFirst character (piecesBehind (front ++ [character]) rest) := by
        rw [piecesBehind_cons, if_neg]
        rintro ⟨comma, level⟩
        exact keeps ⟨comma, by omega⟩
      rw [ih same, map_verdict, verdict_other opens closes, kept]

theorem cutParameters_eq_ok_iff {text : List Char} {parts : List (List Char)} :
    cutParameters 0 text = .ok parts ↔ Balanced text ∧ parts = piecesAtLevel text := by
  have read : cutParameters 0 text = verdict 0 text (piecesAtLevel text) := cutParameters_eq text rfl
  rw [read, verdict, balanced_iff, Nat.zero_add]
  split
  · rename_i covered
    split
    · rename_i level
      simp [covered, level, eq_comm]
    · rename_i uneven
      simp [uneven]
  · rename_i uncovered
    simp [uncovered]

/-- A closing bracket is unmatched exactly if some point has more closing than opening ones before
it. -/
theorem cutParameters_eq_closing_iff {text : List Char} :
    cutParameters 0 text = .error .closing ↔
      ∃ front back, text = front ++ back ∧ front.count '<' < front.count '>' := by
  have read : cutParameters 0 text = verdict 0 text (piecesAtLevel text) := cutParameters_eq text rfl
  have uncovered : (∃ front back, text = front ++ back ∧ front.count '<' < front.count '>') ↔
      ¬CoveredFrom 0 text := by
    simp only [CoveredFrom, Classical.not_forall, Nat.not_le, Nat.zero_add, exists_prop]
  rw [read, verdict, uncovered]
  split
  · rename_i covered
    split
    · simp [covered]
    · simp [covered]
  · rename_i uncovered
    simp [uncovered]

/-- An opening bracket is unmatched exactly if no closing one is and there are more opening ones. -/
theorem cutParameters_eq_opening_iff {text : List Char} :
    cutParameters 0 text = .error .opening ↔
      (∀ front back, text = front ++ back → front.count '>' ≤ front.count '<') ∧
        text.count '>' < text.count '<' := by
  have read : cutParameters 0 text = verdict 0 text (piecesAtLevel text) := cutParameters_eq text rfl
  have covered : (∀ front back, text = front ++ back → front.count '>' ≤ front.count '<') ↔
      CoveredFrom 0 text := by
    simp only [CoveredFrom, Nat.zero_add]
  rw [read, verdict, covered, Nat.zero_add]
  split
  · rename_i covered
    have whole := covered text [] (List.append_nil text).symm
    split
    · rename_i level
      simp [level]
    · rename_i uneven
      simp only [covered, true_and, true_iff]
      omega
  · rename_i uncovered
    simp [uncovered]

/-! ## Cuts by the pieces -/

/-- With `depth` brackets open in front of it, a piece closes them all, and each of its commas stands
inside some brackets. -/
structure PlainFrom (depth : Nat) (piece : List Char) : Prop where
  covered : CoveredFrom depth piece
  level : depth + piece.count '<' = piece.count '>'
  inside : ∀ before after, piece = before ++ ',' :: after →
    before.count '>' < depth + before.count '<'

theorem plainFrom_nil_iff {depth : Nat} : PlainFrom depth [] ↔ depth = 0 := by
  constructor
  · rintro ⟨-, level, -⟩
    simpa using level
  · rintro rfl
    exact ⟨coveredFrom_nil 0, rfl, by simp⟩

/-- A piece without its first character, which is no comma outside of all brackets, has the brackets
open that are open behind that character. -/
theorem plainFrom_cons_iff {depth deeper : Nat} {character : Char} {rest : List Char}
    (counted : deeper + [character].count '>' = depth + [character].count '<')
    (covers : CoveredFrom depth (character :: rest) ↔ CoveredFrom deeper rest) :
    PlainFrom depth (character :: rest) ↔
      ¬(character = ',' ∧ depth = 0) ∧ PlainFrom deeper rest := by
  have counts : ∀ (bracket : Char) (text : List Char),
      (character :: text).count bracket = [character].count bracket + text.count bracket := by
    intro bracket text
    rw [← List.count_append, List.singleton_append]
  constructor
  · rintro ⟨covered, level, inside⟩
    refine ⟨?_, covers.mp covered, ?_, ?_⟩
    · rintro ⟨rfl, rfl⟩
      exact absurd (inside [] rest rfl) (by simp)
    · rw [counts '<' rest, counts '>' rest] at level
      omega
    · intro before after whole
      have kept := inside (character :: before) after (by rw [whole, List.cons_append])
      rw [counts '<' before, counts '>' before] at kept
      omega
  · rintro ⟨keeps, covered, level, inside⟩
    refine ⟨covers.mpr covered, ?_, ?_⟩
    · rw [counts '<' rest, counts '>' rest]
      omega
    · intro before after whole
      cases before with
      | nil =>
          obtain ⟨rfl, -⟩ := List.cons.inj whole
          simp only [true_and] at keeps
          simpa using Nat.pos_of_ne_zero keeps
      | cons first others =>
          obtain ⟨rfl, behind⟩ := List.cons.inj whole
          have kept := inside others after behind
          rw [counts '<' others, counts '>' others]
          omega

theorem plainFrom_opening {depth : Nat} {rest : List Char} :
    PlainFrom depth ('<' :: rest) ↔ PlainFrom (depth + 1) rest := by
  rw [plainFrom_cons_iff (by simp) coveredFrom_opening]
  simp

theorem plainFrom_closing {outer : Nat} {rest : List Char} :
    PlainFrom (outer + 1) ('>' :: rest) ↔ PlainFrom outer rest := by
  rw [plainFrom_cons_iff (by simp) coveredFrom_closing]
  simp

theorem plainFrom_other {depth : Nat} {character : Char} {rest : List Char}
    (opens : character ≠ '<') (closes : character ≠ '>') :
    PlainFrom depth (character :: rest) ↔ ¬(character = ',' ∧ depth = 0) ∧ PlainFrom depth rest :=
  plainFrom_cons_iff (by simp [opens, closes]) (coveredFrom_other opens closes)

/-- Put a text in front of the first piece. -/
def prepend (text : List Char) (parts : List (List Char)) : List (List Char) :=
  text.foldr Text.extendFirst parts

theorem prepend_cons (text piece : List Char) (others : List (List Char)) :
    prepend text (piece :: others) = (text ++ piece) :: others := by
  induction text with
  | nil => rfl
  | cons character rest ih =>
      rw [prepend, List.foldr_cons, ← prepend, ih]
      rfl

theorem map_prepend_cons (character : Char) (text : List Char)
    (result : Except Imbalance (List (List Char))) :
    (result.map (prepend text)).map (Text.extendFirst character) =
      result.map (prepend (character :: text)) := by
  cases result with
  | error imbalance => rfl
  | ok parts => rfl

theorem cutParameters_append {depth : Nat} {piece : List Char} (plain : PlainFrom depth piece)
    (rest : List Char) :
    cutParameters depth (piece ++ rest) = (cutParameters 0 rest).map (prepend piece) := by
  induction depth, piece using cutParameters.induct with
  | case1 =>
      rw [List.nil_append]
      cases cutParameters 0 rest with
      | error imbalance => rfl
      | ok parts => rfl
  | case2 depth open_ => exact absurd (plainFrom_nil_iff.mp plain) open_
  | case3 depth others ih =>
      rw [List.cons_append, cutParameters.eq_def, ← map_prepend_cons, ← ih (plainFrom_opening.mp plain)]
      simp
  | case4 others => exact absurd plain.covered not_coveredFrom_closing
  | case5 others outer _ ih =>
      rw [List.cons_append, cutParameters.eq_def, ← map_prepend_cons, ← ih (plainFrom_closing.mp plain)]
      simp
  | case6 depth character others opens closes cuts ih =>
      exact absurd cuts ((plainFrom_other opens closes).mp plain).1
  | case7 depth character others opens closes keeps ih =>
      rw [List.cons_append, cutParameters.eq_def, ← map_prepend_cons,
        ← ih ((plainFrom_other opens closes).mp plain).2]
      simp [opens, closes, keeps]

theorem exists_of_map_eq_ok {change : List (List Char) → List (List Char)}
    {result : Except Imbalance (List (List Char))} {parts : List (List Char)}
    (changed : result.map change = .ok parts) : ∃ earlier, result = .ok earlier ∧ change earlier = parts := by
  cases result with
  | error imbalance => cases changed
  | ok earlier => exact ⟨earlier, rfl, Except.ok.inj changed⟩

/-- The pieces that the reader finds are plain: the first one with the brackets that were open at the
start, the others with none. -/
theorem plain_of_cutParameters {depth : Nat} {text : List Char} {parts : List (List Char)}
    (read : cutParameters depth text = .ok parts) :
    ∃ first others, parts = first :: others ∧ PlainFrom depth first ∧
      ∀ piece ∈ others, PlainFrom 0 piece := by
  fun_induction cutParameters depth text generalizing parts with
  | case1 =>
      cases read
      exact ⟨[], [], rfl, plainFrom_nil_iff.mpr rfl, nofun⟩
  | case2 depth open_ => cases read
  | case3 depth rest ih =>
      obtain ⟨earlier, cut, rfl⟩ := exists_of_map_eq_ok read
      obtain ⟨first, others, rfl, plain, behind⟩ := ih cut
      exact ⟨'<' :: first, others, rfl, plainFrom_opening.mpr plain, behind⟩
  | case4 rest => cases read
  | case5 rest outer _ ih =>
      obtain ⟨earlier, cut, rfl⟩ := exists_of_map_eq_ok read
      obtain ⟨first, others, rfl, plain, behind⟩ := ih cut
      exact ⟨'>' :: first, others, rfl, plainFrom_closing.mpr plain, behind⟩
  | case6 depth character rest opens closes cuts ih =>
      obtain ⟨rfl, rfl⟩ := cuts
      obtain ⟨earlier, cut, rfl⟩ := exists_of_map_eq_ok read
      obtain ⟨first, others, rfl, plain, behind⟩ := ih cut
      refine ⟨[], first :: others, rfl, plainFrom_nil_iff.mpr rfl, ?_⟩
      intro piece member
      rcases List.mem_cons.mp member with rfl | later
      · exact plain
      · exact behind piece later
  | case7 depth character rest opens closes keeps ih =>
      obtain ⟨earlier, cut, rfl⟩ := exists_of_map_eq_ok read
      obtain ⟨first, others, rfl, plain, behind⟩ := ih cut
      exact ⟨character :: first, others, rfl, (plainFrom_other opens closes).mpr ⟨keeps, plain⟩,
        behind⟩

end Signature
end FragmentAssembly
