import FragmentAssembly.Proofs.Name.Identifiers

/-!
# Segments of dotted names

The last segment of a dotted name and what stands before it are read off the last dot. Together they
make up the name again, and a start of the name that ends at a dot never reaches into the last segment.
A name is qualified if all of its segments are identifiers.
-/

namespace FragmentAssembly
namespace Name

/-- A segment without dots is all of a text, or the part of it behind some dot. -/
def EndsIn (text segment : List Char) : Prop :=
  '.' ∉ segment ∧ (text = segment ∨ '.' :: segment <:+ text)

private theorem ne_dot {segment : List Char} (plain : '.' ∉ segment) :
    ∀ character ∈ segment.reverse, decide (character ≠ '.') = true := by
  intro character member
  have present : character ∈ segment := List.mem_reverse.mp member
  exact decide_eq_true fun dot => plain (dot ▸ present)

theorem lastSegment_of_notMem {text : List Char} (plain : '.' ∉ text) : lastSegment text = text := by
  have kept : (text.reverse ++ []).takeWhile (· ≠ '.') = text.reverse ++ [].takeWhile (· ≠ '.') :=
    List.takeWhile_append_of_pos (ne_dot plain)
  rw [List.append_nil, List.takeWhile_nil, List.append_nil] at kept
  rw [lastSegment, kept, List.reverse_reverse]

theorem beforeLastSegment_of_notMem {text : List Char} (plain : '.' ∉ text) :
    beforeLastSegment text = [] := by
  have dropped : (text.reverse ++ []).dropWhile (· ≠ '.') = [].dropWhile (· ≠ '.') :=
    List.dropWhile_append_of_pos (ne_dot plain)
  rw [List.append_nil, List.dropWhile_nil] at dropped
  rw [beforeLastSegment, dropped]
  rfl

theorem lastSegment_append_dot {segment : List Char} (plain : '.' ∉ segment) (front : List Char) :
    lastSegment (front ++ '.' :: segment) = segment := by
  have backwards : (front ++ '.' :: segment).reverse = segment.reverse ++ '.' :: front.reverse := by
    simp
  rw [lastSegment, backwards, List.takeWhile_append_of_pos (ne_dot plain)]
  simp

theorem beforeLastSegment_append_dot {segment : List Char} (plain : '.' ∉ segment)
    (front : List Char) : beforeLastSegment (front ++ '.' :: segment) = front := by
  have backwards : (front ++ '.' :: segment).reverse = segment.reverse ++ '.' :: front.reverse := by
    simp
  rw [beforeLastSegment, backwards, List.dropWhile_append_of_pos (ne_dot plain)]
  simp

theorem exists_last_dot (text : List Char) :
    '.' ∉ text ∨ ∃ front segment, '.' ∉ segment ∧ text = front ++ '.' :: segment := by
  induction text with
  | nil => exact .inl (by simp)
  | cons first rest ih =>
      rcases ih with plain | ⟨front, segment, plain, rfl⟩
      · by_cases dot : first = '.'
        · exact .inr ⟨[], rest, plain, by rw [dot, List.nil_append]⟩
        · refine .inl ?_
          rw [List.mem_cons, not_or]
          exact ⟨Ne.symm dot, plain⟩
      · exact .inr ⟨first :: front, segment, plain, rfl⟩

/-- The last segment is the one segment that a text ends in. -/
theorem lastSegment_eq_iff {text segment : List Char} :
    lastSegment text = segment ↔ EndsIn text segment := by
  constructor
  · rintro rfl
    rcases exists_last_dot text with plain | ⟨front, segment, plain, rfl⟩
    · rw [lastSegment_of_notMem plain]
      exact ⟨plain, .inl rfl⟩
    · rw [lastSegment_append_dot plain]
      exact ⟨plain, .inr (List.suffix_append front _)⟩
  · rintro ⟨plain, rfl | ⟨front, rfl⟩⟩
    · exact lastSegment_of_notMem plain
    · exact lastSegment_append_dot plain front

/-- A start of a text that ends at a dot ends at the last dot or before it. -/
theorem prefix_append_dot_iff {front segment base : List Char} (plain : '.' ∉ segment) :
    base ++ ['.'] <+: front ++ '.' :: segment ↔ front = base ∨ base ++ ['.'] <+: front := by
  have whole : front ++ '.' :: segment = (front ++ ['.']) ++ segment := by simp
  constructor
  · intro start
    have last : front ++ ['.'] <+: front ++ '.' :: segment := ⟨segment, whole.symm⟩
    rcases List.prefix_or_prefix_of_prefix start last with shorter | ⟨middle, longer⟩
    · rcases List.prefix_concat_iff.mp shorter with same | inside
      · exact .inl (List.append_cancel_right same).symm
      · exact .inr inside
    · rcases List.eq_nil_or_concat middle with rfl | ⟨others, final, rfl⟩
      · rw [List.append_nil] at longer
        exact .inl (List.append_cancel_right longer)
      · have dotted : final = '.' := by
          rw [List.concat_eq_append, ← List.append_assoc] at longer
          have ends := congrArg List.getLast? longer
          rw [List.getLast?_concat, List.getLast?_concat] at ends
          exact Option.some.inj ends
        obtain ⟨rest, begins⟩ := start
        rw [whole, ← longer, List.append_assoc] at begins
        have inside : '.' ∈ segment := by
          rw [← List.append_cancel_left begins, dotted]
          simp
        exact absurd inside plain
  · rintro (rfl | ⟨rest, rfl⟩)
    · exact ⟨segment, whole.symm⟩
    · exact ⟨rest ++ '.' :: segment, by simp⟩

/-! ## Qualified names -/

/-- Identifiers with dots between them. -/
def Qualified (text : List Char) : Prop :=
  ∃ segments : List (List Char), segments ≠ [] ∧
    (∀ segment ∈ segments, isIdentifier segment = true) ∧ text = ['.'].intercalate segments

theorem notMem_of_isIdentifier {segment : List Char} (identifier : isIdentifier segment = true) :
    '.' ∉ segment := by
  have outside : continuesIdentifier '.' = false := by decide +kernel
  intro member
  exact absurd (continues_of_mem identifier member) (by simp [outside])

theorem isQualified_iff {text : List Char} : isQualified text = true ↔ Qualified text := by
  rw [isQualified, Text.pieces_eq_splitOn, List.all_eq_true]
  constructor
  · intro identifiers
    exact ⟨_, List.splitOn_ne_nil '.' text, identifiers, (List.intercalate_splitOn '.').symm⟩
  · rintro ⟨segments, some, identifiers, rfl⟩
    have plain : ∀ segment ∈ segments, '.' ∉ segment := fun segment member =>
      notMem_of_isIdentifier (identifiers segment member)
    rwa [List.splitOn_intercalate '.' plain some]

theorem isQualified_eq_false_iff {text : List Char} :
    isQualified text = false ↔ ¬Qualified text := by
  rw [← isQualified_iff, Bool.not_eq_true]

theorem solid_of_qualified {text : List Char} (qualified : Qualified text) :
    ∀ character ∈ text, Text.isWhiteSpace character = false := by
  obtain ⟨segments, -, identifiers, rfl⟩ := qualified
  have dot : Text.isWhiteSpace '.' = false := by decide
  induction segments with
  | nil => exact fun _ member => (List.not_mem_nil member).elim
  | cons segment others ih =>
      obtain ⟨here, behind⟩ := List.forall_mem_cons.mp identifiers
      cases others with
      | nil =>
          rw [List.intercalate_singleton]
          exact solid_of_isIdentifier here
      | cons next rest =>
          rw [List.intercalate_cons_cons, List.append_assoc, List.forall_mem_append,
            List.forall_mem_append, List.forall_mem_singleton]
          exact ⟨solid_of_isIdentifier here, dot, ih behind⟩

instance (text : List Char) : Decidable (Qualified text) :=
  decidable_of_iff _ isQualified_iff

end Name
end FragmentAssembly
