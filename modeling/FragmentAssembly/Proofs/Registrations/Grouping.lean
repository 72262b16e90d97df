import FragmentAssembly.Proofs.Text.Pieces
import FragmentAssembly.Registrations.Lines

/-!
# Logical lines as blocks of physical lines

Logical lines are collected with a line that may be open. What is collected can be said without it: apart
from blank lines and comments between them, the physical lines fall into blocks. All lines of a block but
the last one end in a backslash; the block at the end of the text may lack its last line.
-/

namespace FragmentAssembly
namespace Registrations

/-- The physical lines of a text, without their line ends and the white space around them. A carriage
return in front of a line feed belongs to the line end. -/
def physicalLines (text : List Char) : List (List Char) :=
  (text.splitOn '\n').map fun line => Text.trim (Text.withoutReturn line)

theorem physicalLines_join (first second : List Char) :
    physicalLines (first ++ '\n' :: second) = physicalLines first ++ physicalLines second := by
  rw [physicalLines, List.splitOn_append_cons_self, List.map_append]
  rfl

theorem physicalLines_of_notMem {text : List Char} (line : '\n' ∉ text) :
    physicalLines text = [Text.trim text] := by
  rw [physicalLines, List.splitOn_eq_singleton line, List.map_singleton, Text.trim_withoutReturn]

theorem length_physicalLines (text : List Char) :
    (physicalLines text).length = 1 + text.count '\n' := by
  rw [physicalLines, List.length_map, ← Text.pieces_eq_splitOn, Text.length_pieces, Nat.add_comm]

/-- A physical line is blank or a comment. -/
def Skipped (line : List Char) : Prop :=
  line = [] ∨ ['#'] <+: line ∨ ['!'] <+: line

/-- Physical lines that go on in the next one. -/
def continuedLines (parts : List (List Char)) : List (List Char) :=
  parts.map (· ++ ['\\'])

/-- How physical lines, numbered from `number`, make up logical lines. -/
inductive Grouped : Nat → List (List Char) → List LogicalLine → Prop where
  /-- The text is at its end. -/
  | nil {number : Nat} : Grouped number [] []
  /-- A blank line or a comment stands between blocks. -/
  | skip {number : Nat} {line : List Char} {rest : List (List Char)} {lines : List LogicalLine}
      (skipped : Skipped line) (others : Grouped (number + 1) rest lines) :
      Grouped number (line :: rest) lines
  /-- A block ends with a line that does not go on, whatever its lines behind the first one look
  like. -/
  | block {number : Nat} {parts : List (List Char)} {last : List Char} {rest : List (List Char)}
      {lines : List LogicalLine}
      (opens : ∀ first ∈ (continuedLines parts ++ [last]).head?, ¬Skipped first)
      (ends : ¬['\\'] <:+ last) (others : Grouped (number + parts.length + 1) rest lines) :
      Grouped number (continuedLines parts ++ last :: rest) (⟨number, parts.flatten ++ last⟩ :: lines)
  /-- A block is cut off by the end of the text. -/
  | dangling {number : Nat} {first : List Char} {parts : List (List Char)}
      (opens : ¬Skipped (first ++ ['\\'])) :
      Grouped number (continuedLines (first :: parts)) [⟨number, (first :: parts).flatten⟩]

theorem isSkipped_iff {line : List Char} : isSkipped line = true ↔ Skipped line := by
  cases line with
  | nil => simp [isSkipped, Skipped]
  | cons first rest =>
      simp only [isSkipped, Skipped, Bool.or_eq_true, decide_eq_true_eq, reduceCtorEq, false_or,
        List.singleton_prefix_cons_iff]
      exact or_congr eq_comm eq_comm

theorem skipped_iff_head? {line : List Char} :
    Skipped line ↔ ∀ first, line.head? = some first → first = '#' ∨ first = '!' := by
  cases line with
  | nil => simp [Skipped]
  | cons first rest =>
      simp only [Skipped, List.cons_ne_nil, false_or, List.singleton_prefix_cons_iff,
        List.head?_cons, Option.some.injEq, forall_eq']
      exact or_congr eq_comm eq_comm

theorem continued?_append (part : List Char) : continued? (part ++ ['\\']) = some part := by
  simp [continued?]

theorem continued?_eq_none {line : List Char} (ends : ¬['\\'] <:+ line) : continued? line = none := by
  rw [continued?, if_neg]
  intro last
  obtain ⟨front, rfl⟩ := List.getLast?_eq_some_iff.mp last
  exact ends (List.suffix_append front ['\\'])

/-- Lines end in backslashes up to one that does not, or all of them do. -/
theorem exists_continuedLines (lines : List (List Char)) :
    ∃ parts, lines = continuedLines parts ∨
      ∃ last rest, ¬['\\'] <:+ last ∧ lines = continuedLines parts ++ last :: rest := by
  induction lines with
  | nil => exact ⟨[], .inl rfl⟩
  | cons line others ih =>
      by_cases ends : ['\\'] <:+ line
      · obtain ⟨part, rfl⟩ := ends
        rcases ih with ⟨parts, rfl | ⟨last, rest, stops, rfl⟩⟩
        · exact ⟨part :: parts, .inl rfl⟩
        · exact ⟨part :: parts, .inr ⟨last, rest, stops, rfl⟩⟩
      · exact ⟨[], .inr ⟨line, others, ends, rfl⟩⟩

/-- A line that is not skipped begins a block, which may be cut off. -/
theorem exists_block {line : List Char} (begins : ¬Skipped line) (others : List (List Char)) :
    (∃ first parts, line :: others = continuedLines (first :: parts) ∧
        ¬Skipped (first ++ ['\\'])) ∨
      ∃ parts last rest, line :: others = continuedLines parts ++ last :: rest ∧
        (∀ first ∈ (continuedLines parts ++ [last]).head?, ¬Skipped first) ∧ ¬['\\'] <:+ last := by
  obtain ⟨parts, whole | ⟨last, rest, ends, split⟩⟩ := exists_continuedLines (line :: others)
  · cases parts with
    | nil => cases whole
    | cons first behind =>
        have same : line = first ++ ['\\'] := (List.cons.inj whole).1
        exact .inl ⟨first, behind, whole, same ▸ begins⟩
  · refine .inr ⟨parts, last, rest, split, ?_, ends⟩
    have same : (continuedLines parts ++ [last]).head? = some line := by
      have heads := congrArg List.head? split
      simpa using heads.symm
    intro first member
    rw [same] at member
    cases member
    exact begins

/-! ## The collecting of lines -/

theorem group_skip {line : List Char} (skipped : Skipped line) (number : Nat)
    (rest : List (List Char)) : group none number (line :: rest) = group none (number + 1) rest := by
  simp [group, isSkipped_iff.mpr skipped]

theorem group_opens {line : List Char} (opens : ¬Skipped line) (number : Nat)
    (rest : List (List Char)) :
    group none number (line :: rest) = group (some ⟨number, []⟩) number (line :: rest) := by
  have stays : isSkipped line = false := by
    rw [← Bool.not_eq_true, isSkipped_iff]
    exact opens
  simp [group, stays]

theorem group_continued (start : LogicalLine) (number : Nat) (parts rest : List (List Char)) :
    group (some start) number (continuedLines parts ++ rest) =
      group (some ⟨start.number, start.content ++ parts.flatten⟩) (number + parts.length) rest := by
  induction parts generalizing start number with
  | nil => simp [continuedLines]
  | cons part others ih =>
      have taken : group (some start) number (continuedLines (part :: others) ++ rest) =
          group (some ⟨start.number, start.content ++ part⟩) (number + 1)
            (continuedLines others ++ rest) := by
        simp [continuedLines, group, extend, continued?_append]
      rw [taken, ih, List.flatten_cons, List.append_assoc, List.length_cons, Nat.add_assoc,
        Nat.add_comm 1]

theorem group_last {last : List Char} (ends : ¬['\\'] <:+ last) (start : LogicalLine) (number : Nat)
    (rest : List (List Char)) :
    group (some start) number (last :: rest) =
      ⟨start.number, start.content ++ last⟩ :: group none (number + 1) rest := by
  simp [group, extend, continued?_eq_none ends]

/-- Whether a block may begin with a line is decided before anything of it is collected. -/
theorem group_block {block : List (List Char)} (some : block ≠ [])
    (opens : ∀ first ∈ block.head?, ¬Skipped first) (number : Nat) (rest : List (List Char)) :
    group none number (block ++ rest) = group (.some ⟨number, []⟩) number (block ++ rest) := by
  cases block with
  | nil => exact absurd rfl some
  | cons first others => exact group_opens (opens first rfl) number (others ++ rest)

theorem group_of_grouped {number : Nat} {physical : List (List Char)} {lines : List LogicalLine}
    (grouped : Grouped number physical lines) : group none number physical = lines := by
  induction grouped with
  | nil => rfl
  | skip skipped _ ih => rw [group_skip skipped, ih]
  | @block number parts last rest lines opens ends _ ih =>
      have opened := group_block (by simp) opens number rest
      rw [List.append_assoc, List.singleton_append] at opened
      rw [opened, group_continued, group_last ends, ih, List.nil_append]
  | @dangling number first parts opens =>
      have opened := group_opens opens number (continuedLines parts)
      have collected := group_continued ⟨number, []⟩ number (first :: parts) []
      rw [List.append_nil] at collected
      exact opened.trans collected

theorem grouped_group (number : Nat) (physical : List (List Char)) :
    Grouped number physical (group none number physical) := by
  -- A block is taken away as a whole, so the induction is on the number of lines that are left.
  induction bound : physical.length using Nat.strongRecOn generalizing number physical with
  | ind count ih =>
      subst bound
      cases physical with
      | nil => exact .nil
      | cons line others =>
          by_cases skipped : Skipped line
          · rw [group_skip skipped]
            exact .skip skipped (ih _ (by simp) _ _ rfl)
          · rcases exists_block skipped others with
              ⟨first, parts, whole, opens⟩ | ⟨parts, last, rest, split, opens, ends⟩
            · have block : Grouped number (continuedLines (first :: parts)) _ := .dangling opens
              rw [whole]
              exact group_of_grouped block ▸ block
            · have shorter : rest.length < (line :: others).length := by
                rw [split, List.length_append, List.length_cons]
                omega
              have behind := ih rest.length shorter (number + parts.length + 1) rest rfl
              have block := Grouped.block opens ends behind
              rw [split]
              exact group_of_grouped block ▸ block

/-- Physical lines make up logical lines in one way, which is the one that is collected. -/
theorem grouped_iff {number : Nat} {physical : List (List Char)} {lines : List LogicalLine} :
    Grouped number physical lines ↔ group none number physical = lines := by
  constructor
  · exact group_of_grouped
  · rintro rfl
    exact grouped_group number physical

theorem logicalLines_eq (text : List Char) :
    logicalLines text = group none 1 (physicalLines text) := by
  simp only [logicalLines, physicalLines, Text.pieces_eq_splitOn, Text.trim_withoutReturn]

end Registrations
end FragmentAssembly
