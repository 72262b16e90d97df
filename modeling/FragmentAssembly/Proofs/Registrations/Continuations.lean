import FragmentAssembly.Proofs.Registrations.Reading
import FragmentAssembly.Proofs.Text.Thinning

/-!
# Entries on several lines

An entry may be cut anywhere and go on in the next physical line: a backslash and a line feed stand in each
cut, with white space behind the backslash and in front of what follows. Trimming the physical lines takes
white space out of the entry. In a well-formed entry white space stands around names only, so that the same
names are read.
-/

namespace FragmentAssembly
namespace Registrations

/-! ## White space in a logical line -/

private theorem dense_equals : Text.isWhiteSpace '=' = false := by decide

private theorem dense_comma : Text.isWhiteSpace ',' = false := by decide

theorem FallsApart.padded {content : List Char} {contract : String} {names : List String}
    (parts : FallsApart content contract names) {front back : List Char} (before : Text.Blank front)
    (behind : Text.Blank back) : FallsApart (front ++ content ++ back) contract names := by
  obtain ⟨key, value, rfl, first, spelled, listed⟩ := parts
  refine ⟨front ++ key, value ++ back, by simp, ?_, ?_, ?_⟩
  · rw [List.mem_append, not_or]
    exact ⟨before.notMem dense_equals, first⟩
  · rw [spelled, Text.trim_whiteSpace_append before]
  · rw [listed, ← Text.pieces_eq_splitOn, ← Text.pieces_eq_splitOn,
      Text.map_trim_pieces_append dense_comma value behind]

theorem FallsApart.thinned {content thin : List Char} {contract : String} {names : List String}
    (parts : FallsApart content contract names) (thinned : Text.Thinned content thin)
    (solidContract : ∀ character ∈ contract.toList, Text.isWhiteSpace character = false)
    (solidNames : ∀ name ∈ names, ∀ character ∈ name.toList, Text.isWhiteSpace character = false) :
    FallsApart thin contract names := by
  obtain ⟨key, value, rfl, first, spelled, listed⟩ := parts
  obtain ⟨thinKey, thinValue, rfl, keys, values⟩ := thinned.exists_append_cons dense_equals
  refine ⟨thinKey, thinValue, rfl, fun member => first (keys.subset member), ?_, ?_⟩
  · rw [spelled] at solidContract ⊢
    exact (keys.trim_eq solidContract).symm
  · rw [← Text.pieces_eq_splitOn] at listed ⊢
    rw [listed, Text.Thinned.map_trim_eq (Text.Thinned.forall₂_pieces dense_comma values)]
    intro piece among character member
    have named : Text.trim piece ∈ names.map String.toList := by
      rw [listed, List.mem_filter]
      exact ⟨List.mem_map_of_mem among, decide_eq_true (List.ne_nil_of_mem member)⟩
    obtain ⟨name, present, same⟩ := List.mem_map.mp named
    exact solidNames name present character (same ▸ member)

theorem Declares.padded {content : List Char} {declared : Declaration}
    (declares : Declares content declared) {front back : List Char} (before : Text.Blank front)
    (behind : Text.Blank back) : Declares (front ++ content ++ back) declared :=
  { declares with parts := declares.parts.padded before behind }

/-- A well-formed line may lose any of its white space. -/
theorem Declares.thinned {content thin : List Char} {declared : Declaration}
    (declares : Declares content declared) (thinned : Text.Thinned content thin) :
    Declares thin declared :=
  { declares with
    parts := declares.parts.thinned thinned (Name.solid_of_qualified declares.contract_qualified)
      fun name member => Name.solid_of_qualified (declares.implementations_qualified name member) }

/-- What is declared by a line that was trimmed is declared by the line, whatever white space it loses. -/
theorem Declares.of_trim {text thin : List Char} {declared : Declaration}
    (declares : Declares (Text.trim text) declared) (thinned : Text.Thinned text thin) :
    Declares thin declared := by
  obtain ⟨-, front, back, before, behind, split⟩ := Text.exists_trim text
  have whole := declares.padded before behind
  rw [← split] at whole
  exact whole.thinned thinned

/-! ## Physical lines of a cut text -/

/-- How a text goes on behind a cut. -/
structure Continuation where
  /-- White space between the backslash and the line feed. -/
  trailing : List Char
  /-- White space at the start of the next line. -/
  leading : List Char
  /-- What follows of the text. -/
  piece : List Char
  /-- Behind the backslash is nothing but white space. -/
  trailing_blank : Text.Blank trailing := by decide
  /-- In front of what follows is nothing but white space. -/
  leading_blank : Text.Blank leading := by decide
  /-- The line feed is the first one behind the backslash. -/
  trailing_line : '\n' ∉ trailing := by decide
  /-- The next line begins behind that line feed. -/
  leading_line : '\n' ∉ leading := by decide

/-- The written form of a continuation. -/
def Continuation.text (continuation : Continuation) : List Char :=
  '\\' :: continuation.trailing ++ '\n' :: continuation.leading ++ continuation.piece

/-- A line that goes on opens a logical line if the text that it begins does. -/
theorem Skipped.of_continued {first : List Char}
    (skipped : Skipped (Text.trimStart first ++ ['\\'])) (rest : List Char) :
    Skipped (Text.trim (first ++ rest)) := by
  rw [skipped_iff_head?] at skipped ⊢
  rw [Text.head?_trim, Text.trimStart, List.dropWhile_append, ← Text.trimStart]
  cases started : Text.trimStart first with
  | nil =>
      rw [started] at skipped
      exact absurd (skipped '\\' rfl) (by decide)
  | cons character others =>
      rw [started] at skipped
      exact skipped

/-- The physical lines of a cut text are those of one block, and together they are the text without some of
its white space. -/
theorem exists_physicalLines {leading first : List Char} (blank : Text.Blank leading)
    (leading_line : '\n' ∉ leading) (continuations : List Continuation)
    (line : '\n' ∉ first ++ continuations.flatMap Continuation.piece) :
    ∃ parts last,
      physicalLines (leading ++ first ++ continuations.flatMap Continuation.text) =
        continuedLines parts ++ [last] ∧
      Text.Thinned (first ++ continuations.flatMap Continuation.piece) (parts.flatten ++ last) ∧
      ∀ opening ∈ (continuedLines parts ++ [last]).head?, Skipped opening →
        Skipped (Text.trim (first ++ continuations.flatMap Continuation.piece)) := by
  induction continuations generalizing leading first with
  | nil =>
      simp only [List.flatMap_nil, List.append_nil] at line ⊢
      have single : '\n' ∉ leading ++ first := by
        rw [List.mem_append, not_or]
        exact ⟨leading_line, line⟩
      refine ⟨[], Text.trim first, ?_, Text.Thinned.trim first, ?_⟩
      · rw [physicalLines_of_notMem single, Text.trim_whiteSpace_append blank]
        rfl
      · intro opening begins skipped
        cases begins
        exact skipped
  | cons continuation others ih =>
      obtain ⟨trailing, between, piece, trailing_blank, between_blank, trailing_line, between_line⟩ :=
        continuation
      rw [List.flatMap_cons, List.mem_append, not_or] at line
      obtain ⟨parts, last, cut, thinned, -⟩ := ih between_blank between_line line.2
      have split : leading ++ first ++
            (⟨trailing, between, piece, trailing_blank, between_blank, trailing_line, between_line⟩ ::
              others).flatMap Continuation.text =
          (leading ++ first ++ ['\\'] ++ trailing) ++ '\n' ::
            (between ++ piece ++ others.flatMap Continuation.text) := by
        simp [Continuation.text]
      have single : '\n' ∉ leading ++ first ++ ['\\'] ++ trailing := by
        simp [leading_line, line.1, trailing_line]
      refine ⟨Text.trimStart first :: parts, last, ?_, ?_, ?_⟩
      · rw [split, physicalLines_join, cut, physicalLines_of_notMem single,
          Text.trim_append_whiteSpace _ trailing_blank, List.append_assoc,
          Text.trim_whiteSpace_append blank, Text.trim_append_dense (by decide)]
        rfl
      · have whole := (Text.Thinned.trimStart first).append thinned
        simpa using whole
      · intro opening begins skipped
        cases begins
        exact skipped.of_continued _

/-! ## Reading a cut text -/

/-- The physical lines of one block make up one logical line. -/
theorem logicalLines_of_block {text : List Char} {parts : List (List Char)} {last : List Char}
    (block : physicalLines text = continuedLines parts ++ [last])
    (opens : ∀ opening ∈ (continuedLines parts ++ [last]).head?, ¬Skipped opening)
    (ends : '\\' ∉ last) : logicalLines text = [⟨1, parts.flatten ++ last⟩] := by
  rw [logicalLines_eq, block]
  apply group_of_grouped
  refine .block opens ?_ .nil
  intro suffix
  exact ends (suffix.subset (List.mem_singleton_self '\\'))

theorem exists_declares_of_parse {text : String} {registrations : Registrations}
    (read : parse text = .ok registrations) (some : registrations.isEmpty = false)
    (line : '\n' ∉ text.toList) (plain : '\\' ∉ text.toList) :
    ¬Skipped (Text.trim text.toList) ∧
      ∃ declared, Declares (Text.trim text.toList) declared ∧
        registrations = empty.declareAll [declared] := by
  have single : physicalLines text.toList = continuedLines [] ++ [Text.trim text.toList] :=
    physicalLines_of_notMem line
  have opens : ¬Skipped (Text.trim text.toList) := by
    intro skipped
    have none : logicalLines text.toList = [] := by
      rw [logicalLines_eq, single]
      exact group_skip skipped 1 []
    rw [parse, none] at read
    cases read
    exact absurd some (by decide)
  have ends : '\\' ∉ Text.trim text.toList := fun member =>
    plain ((Text.Thinned.trim text.toList).subset member)
  have logical : logicalLines text.toList = [⟨1, Text.trim text.toList⟩] := by
    refine logicalLines_of_block single ?_ ends
    intro opening begins
    cases begins
    exact opens
  rw [parse, logical] at read
  obtain ⟨_, content, same⟩ := declareLines_eq_ok_iff.mp read
  cases content with
  | cons declares behind =>
      cases behind
      exact ⟨opens, _, declares, same⟩

/-- A line that declares something may be cut into pieces anywhere, also inside of a name, and pieces may be
empty or blank: on several lines it declares the same. -/
theorem parse_continued {text : String} {registrations : Registrations}
    (read : parse text = .ok registrations) (some : registrations.isEmpty = false)
    (line : '\n' ∉ text.toList) (plain : '\\' ∉ text.toList) {first : List Char}
    {continuations : List Continuation}
    (cut : text.toList = first ++ continuations.flatMap Continuation.piece) :
    parse (String.ofList (first ++ continuations.flatMap Continuation.text)) =
      .ok registrations := by
  obtain ⟨opens, declared, declares, rfl⟩ := exists_declares_of_parse read some line plain
  rw [cut] at opens declares line plain
  obtain ⟨parts, last, block, thinned, opening⟩ :=
    exists_physicalLines (List.forall_mem_nil _) List.not_mem_nil continuations line
  have ends : '\\' ∉ last := fun member =>
    plain (thinned.subset (List.mem_append_right parts.flatten member))
  have logical := logicalLines_of_block block (fun line begins => mt (opening line begins) opens) ends
  have content : Declared [⟨1, parts.flatten ++ last⟩] [declared] :=
    .cons (declares.of_trim thinned) .nil
  rw [List.nil_append] at logical
  rw [parse, String.toList_ofList, logical]
  exact declareLines_of_declared content empty

/-- Cuts in front of a line, inside of a name and between two names, one of them without any text. -/
def cuts : List Continuation :=
  [{ trailing := [' ', '\r'], leading := ['\t'], piece := "a.".toList },
    { trailing := [], leading := [' ', ' '], piece := "B = c.D, ".toList },
    { trailing := [], leading := [], piece := [] },
    { trailing := [], leading := [], piece := "c.E".toList }]

theorem parse_continued_inside_name :
    parse "a.B = c.D, c.E" = .ok (empty.registerAll "a.B" ["c.D", "c.E"]) ∧
      parse "\\ \r\n\ta.\\\n  B = c.D, \\\n\\\nc.E" =
        .ok (empty.registerAll "a.B" ["c.D", "c.E"]) := by
  have read : parse "a.B = c.D, c.E" = .ok (empty.registerAll "a.B" ["c.D", "c.E"]) := rfl
  have cut : "a.B = c.D, c.E".toList = [] ++ cuts.flatMap Continuation.piece := by decide
  have continued := parse_continued read rfl (by decide) (by decide) cut
  exact ⟨read, continued⟩

end Registrations
end FragmentAssembly
