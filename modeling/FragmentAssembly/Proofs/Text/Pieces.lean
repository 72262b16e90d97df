import FragmentAssembly.Text.Pieces
import FragmentAssembly.Text.WhiteSpace

/-!
# Pieces, cuts and trimming

Cutting a text at every separator is splitting it as a list, and cutting it at the first one leaves no
separator in front. Trimming ignores white space that stands at the end of a text, and with it the
carriage return of a line end.
-/

namespace FragmentAssembly
namespace Text

theorem extendFirst_of_ne_nil (character : Char) {parts : List (List Char)} (some : parts ≠ []) :
    extendFirst character parts = parts.modifyHead (character :: ·) := by
  cases parts with
  | nil => exact absurd rfl some
  | cons piece others => rfl

/-- The pieces of a text are what splitting it at the separator gives. -/
theorem pieces_eq_splitOn (separator : Char) (text : List Char) :
    pieces separator text = text.splitOn separator := by
  induction text with
  | nil => rfl
  | cons character rest ih =>
      rw [pieces, List.splitOn, List.splitOnP_cons_eq_if_modifyHead,
        extendFirst_of_ne_nil character (pieces_ne_nil separator rest), ih, List.splitOn]
      simp only [beq_iff_eq]

theorem length_pieces (separator : Char) (text : List Char) :
    (pieces separator text).length = text.count separator + 1 := by
  induction text with
  | nil => rfl
  | cons character rest ih =>
      rw [pieces]
      split
      · rename_i same
        rw [List.length_cons, ih, same, List.count_cons_self]
      · rename_i different
        rw [extendFirst_of_ne_nil character (pieces_ne_nil separator rest), List.length_modifyHead, ih,
          List.count_cons_of_ne different]

/-- A text without separators behind another text goes on with its last piece. -/
theorem exists_last_piece {separator : Char} {back : List Char} (plain : separator ∉ back)
    (text : List Char) :
    ∃ others last, pieces separator text = others ++ [last] ∧
      pieces separator (text ++ back) = others ++ [last ++ back] := by
  induction text with
  | nil =>
      refine ⟨[], [], rfl, ?_⟩
      rw [List.nil_append, pieces_eq_splitOn, List.splitOn_eq_singleton plain]
      rfl
  | cons character rest ih =>
      obtain ⟨others, last, cut, longer⟩ := ih
      rw [List.cons_append, pieces, pieces, cut, longer]
      split
      · exact ⟨[] :: others, last, rfl, rfl⟩
      · cases others with
        | nil => exact ⟨[], character :: last, rfl, rfl⟩
        | cons first between => exact ⟨(character :: first) :: between, last, rfl, rfl⟩

theorem cutAtFirst_eq_none_iff {separator : Char} {text : List Char} :
    cutAtFirst separator text = none ↔ separator ∉ text := by
  induction text with
  | nil => simp [cutAtFirst]
  | cons character rest ih =>
      by_cases same : character = separator
      · simp [cutAtFirst, same]
      · simp [cutAtFirst, same, Ne.symm same, ih]

theorem cutAtFirst_eq_some_iff {separator : Char} {text before after : List Char} :
    cutAtFirst separator text = some (before, after) ↔
      text = before ++ separator :: after ∧ separator ∉ before := by
  induction text generalizing before with
  | nil => simp [cutAtFirst]
  | cons character rest ih =>
      by_cases same : character = separator
      · subst same
        cases before with
        | nil => simp [cutAtFirst]
        | cons first others =>
            simp only [cutAtFirst, if_pos, Option.some.injEq, Prod.mk.injEq, List.cons_append,
              List.cons.injEq, List.mem_cons, not_or]
            constructor
            · rintro ⟨impossible, -⟩
              cases impossible
            · rintro ⟨⟨same, -⟩, different, -⟩
              exact absurd same different
      · cases before with
        | nil => simp [cutAtFirst, same]
        | cons first others =>
            simp only [cutAtFirst, same, if_false, Option.map_eq_some_iff, Prod.mk.injEq,
              List.cons.injEq, List.cons_append, List.mem_cons, not_or]
            constructor
            · rintro ⟨⟨front, back⟩, cut, ⟨rfl, rfl⟩, rfl⟩
              obtain ⟨rfl, absent⟩ := ih.mp cut
              exact ⟨⟨rfl, rfl⟩, Ne.symm same, absent⟩
            · rintro ⟨⟨rfl, rfl⟩, -, absent⟩
              exact ⟨(others, after), ih.mpr ⟨rfl, absent⟩, ⟨rfl, rfl⟩, rfl⟩

theorem trim_append_whiteSpace (text : List Char) {blanks : List Char}
    (white : ∀ character ∈ blanks, isWhiteSpace character = true) :
    trim (text ++ blanks) = trim text := by
  have nothing : blanks.dropWhile isWhiteSpace = [] := by
    have dropped : (blanks ++ []).dropWhile isWhiteSpace = [].dropWhile isWhiteSpace :=
      List.dropWhile_append_of_pos white
    rwa [List.append_nil] at dropped
  have backwards : ∀ character ∈ blanks.reverse, isWhiteSpace character = true := by
    intro character member
    exact white character (List.mem_reverse.mp member)
  rw [trim, trim, trimStart, trimStart, List.dropWhile_append]
  split
  · rename_i blank
    rw [nothing, List.isEmpty_iff.mp blank]
  · rw [trimEnd, trimEnd, List.reverse_append, List.dropWhile_append_of_pos backwards]

/-- A line without the carriage return at its end. -/
def withoutReturn (line : List Char) : List Char :=
  if line.getLast? = some '\r' then line.dropLast else line

/-- A carriage return at the end of a line is trimmed away anyway. -/
theorem trim_withoutReturn (line : List Char) : trim (withoutReturn line) = trim line := by
  rw [withoutReturn]
  split
  · rename_i ends
    obtain ⟨front, rfl⟩ := List.getLast?_eq_some_iff.mp ends
    rw [List.dropLast_concat]
    refine (trim_append_whiteSpace front ?_).symm
    intro character member
    rw [List.mem_singleton.mp member]
    decide
  · rfl

end Text
end FragmentAssembly
