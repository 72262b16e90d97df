import FragmentAssembly.Proofs.Text.Pieces

/-!
# What trimming leaves

Trimming a text takes white space away from its ends and nothing else. What is left has no white space
at its ends, and there is only one such part of the text.
-/

namespace FragmentAssembly
namespace Text

/-- A text of white space only. -/
def Blank (text : List Char) : Prop :=
  ∀ character ∈ text, isWhiteSpace character = true

-- Instance search would find the search through all characters in place of the one through `text`.
instance (text : List Char) : Decidable (Blank text) :=
  List.decidableBAll (fun character => isWhiteSpace character = true) text

/-- A text without white space at its ends. -/
structure Bare (text : List Char) : Prop where
  starts : ∀ character, text.head? = some character → isWhiteSpace character = false
  ends : ∀ character, text.getLast? = some character → isWhiteSpace character = false

theorem bare_nil : Bare [] :=
  ⟨nofun, nofun⟩

theorem blank_takeWhile (text : List Char) : Blank (text.takeWhile isWhiteSpace) :=
  fun _ member => List.all_eq_true.mp List.all_takeWhile _ member

theorem Blank.reverse {text : List Char} (blank : Blank text) : Blank text.reverse :=
  fun character member => blank character (List.mem_reverse.mp member)

/-- What trimming takes away is white space, in front of what it leaves and behind it. -/
theorem exists_trim (text : List Char) :
    Bare (trim text) ∧
      ∃ front back, Blank front ∧ Blank back ∧ text = front ++ trim text ++ back := by
  have started : text = text.takeWhile isWhiteSpace ++ trimStart text :=
    List.takeWhile_append_dropWhile.symm
  have ended : trimStart text =
      trim text ++ ((trimStart text).reverse.takeWhile isWhiteSpace).reverse := by
    rw [trim, trimEnd, ← List.reverse_append, List.takeWhile_append_dropWhile, List.reverse_reverse]
  constructor
  · constructor
    · intro character first
      have begins : (trimStart text).head? = some character := by
        rw [ended, List.head?_append, first, Option.some_or]
      have rejected := List.head?_dropWhile_not isWhiteSpace text
      rw [← trimStart, begins] at rejected
      exact rejected
    · intro character last
      rw [trim, trimEnd, List.getLast?_reverse] at last
      have rejected := List.head?_dropWhile_not isWhiteSpace (trimStart text).reverse
      rw [last] at rejected
      exact rejected
  · refine ⟨_, _, blank_takeWhile text, (blank_takeWhile (trimStart text).reverse).reverse, ?_⟩
    rw [List.append_assoc, ← ended]
    exact started

theorem trim_whiteSpace_append {blanks : List Char} (blank : Blank blanks) (text : List Char) :
    trim (blanks ++ text) = trim text := by
  rw [trim, trim, trimStart, trimStart, List.dropWhile_append_of_pos blank]

theorem trim_of_bare {text : List Char} (bare : Bare text) : trim text = text := by
  have kept : ∀ {other : List Char},
      (∀ character, other.head? = some character → isWhiteSpace character = false) →
        other.dropWhile isWhiteSpace = other := by
    intro other starts
    cases other with
    | nil => rfl
    | cons first rest => exact List.dropWhile_cons_of_neg (by simp [starts first rfl])
  rw [trim, trimStart, kept bare.starts, trimEnd, kept, List.reverse_reverse]
  intro character last
  exact bare.ends character (List.head?_reverse ▸ last)

/-- Trimming leaves the one part that has no white space at its ends and nothing but white space
around it. -/
theorem trim_eq_iff {text core : List Char} :
    trim text = core ↔
      Bare core ∧ ∃ front back, Blank front ∧ Blank back ∧ text = front ++ core ++ back := by
  constructor
  · rintro rfl
    exact exists_trim text
  · rintro ⟨bare, front, back, before, behind, rfl⟩
    rw [trim_append_whiteSpace _ behind, trim_whiteSpace_append before, trim_of_bare bare]

theorem trim_eq_nil_iff {text : List Char} : trim text = [] ↔ Blank text := by
  rw [trim_eq_iff]
  constructor
  · rintro ⟨-, front, back, before, behind, rfl⟩
    rw [List.append_nil]
    intro character member
    rcases List.mem_append.mp member with first | last
    · exact before character first
    · exact behind character last
  · intro blank
    exact ⟨bare_nil, text, [], blank, nofun, by simp⟩

theorem Blank.notMem {text : List Char} (blank : Blank text) {character : Char}
    (dense : isWhiteSpace character = false) : character ∉ text := by
  intro member
  rw [blank character member] at dense
  cases dense

/-- Trimming the end of a text leaves its first character that is not white space. -/
theorem head?_trim (text : List Char) : (trim text).head? = (trimStart text).head? := by
  rw [trim]
  cases started : trimStart text with
  | nil => rfl
  | cons first rest =>
      have dense : isWhiteSpace first = false := by
        have rejected := List.head?_dropWhile_not isWhiteSpace text
        rw [← trimStart, started] at rejected
        exact rejected
      have kept : [first].dropWhile isWhiteSpace = [first] :=
        List.dropWhile_cons_of_neg (by simp [dense])
      rw [trimEnd, List.reverse_cons, List.dropWhile_append, kept]
      split
      · rfl
      · simp

/-- Behind a character that is not white space nothing is trimmed. -/
theorem trim_append_dense {character : Char} (dense : isWhiteSpace character = false)
    (text : List Char) : trim (text ++ [character]) = trimStart text ++ [character] := by
  have kept : ∀ rest, (character :: rest).dropWhile isWhiteSpace = character :: rest :=
    fun rest => List.dropWhile_cons_of_neg (by simp [dense])
  have started : trimStart (text ++ [character]) = trimStart text ++ [character] := by
    rw [trimStart, List.dropWhile_append, kept, trimStart]
    split
    · rename_i blank
      rw [List.isEmpty_iff.mp blank, List.nil_append]
    · rfl
  rw [trim, started, trimEnd, List.reverse_append, List.reverse_singleton, List.singleton_append,
    kept, List.reverse_cons, List.reverse_reverse]

theorem map_trim_pieces_append {separator : Char} (dense : isWhiteSpace separator = false)
    (text : List Char) {back : List Char} (blank : Blank back) :
    (pieces separator (text ++ back)).map trim = (pieces separator text).map trim := by
  obtain ⟨others, last, cut, longer⟩ := exists_last_piece (blank.notMem dense) text
  rw [cut, longer, List.map_append, List.map_append, List.map_singleton, List.map_singleton,
    trim_append_whiteSpace last blank]

end Text
end FragmentAssembly
