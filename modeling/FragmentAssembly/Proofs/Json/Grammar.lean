import FragmentAssembly.Proofs.Json.Numbers
import FragmentAssembly.Proofs.Json.Strings
import Mathlib.Data.List.DropRight

/-!
# The grammar of JSON text

What a text spells, by the grammar of RFC 8259. An element is a value with white space around it; a
whole text is an element. White space stands around elements and around keys and nowhere else.
-/

namespace FragmentAssembly
namespace Json

/-- White space between tokens. -/
def Blanks (text : List Char) : Prop :=
  ∀ character ∈ text, isBlank character = true

/-- What a stretch of text stands for. -/
inductive Phrase where
  /-- A value, from its first token to its last one. -/
  | value (json : Json)
  /-- A value with white space around it. -/
  | element (json : Json)
  /-- What stands between the brackets of an array that is not empty. -/
  | items (items : List Json)
  /-- What stands between the braces of an object that is not empty. -/
  | members (members : List (Content × Json))

/-- The ways to write a key with its colon. -/
inductive SpellsKey : List Char → Content → Prop where
  | intro {before text after : List Char} {key : Content} (front : Blanks before)
      (spelled : SpellsContent text key) (back : Blanks after) :
      SpellsKey (before ++ '"' :: (text ++ '"' :: (after ++ [':']))) key

/-- The ways to write a phrase. -/
inductive Spells : List Char → Phrase → Prop where
  | null : Spells ['n', 'u', 'l', 'l'] (.value .null)
  | truth : Spells ['t', 'r', 'u', 'e'] (.value (.boolean true))
  | falsity : Spells ['f', 'a', 'l', 's', 'e'] (.value (.boolean false))
  | number {literal : List Char} (number : IsNumber literal) :
      Spells literal (.value (.number literal))
  | string {text : List Char} {content : Content} (spelled : SpellsContent text content) :
      Spells ('"' :: (text ++ ['"'])) (.value (.string content))
  | emptyArray {gap : List Char} (blank : Blanks gap) :
      Spells ('[' :: (gap ++ [']'])) (.value (.array []))
  | array {text : List Char} {items : List Json} (inside : Spells text (.items items)) :
      Spells ('[' :: (text ++ [']'])) (.value (.array items))
  | emptyObject {gap : List Char} (blank : Blanks gap) :
      Spells ('\x7b' :: (gap ++ ['\x7d'])) (.value (.object []))
  | object {text : List Char} {members : List (Content × Json)}
      (inside : Spells text (.members members)) :
      Spells ('\x7b' :: (text ++ ['\x7d'])) (.value (.object members))
  | element {before text after : List Char} {json : Json} (front : Blanks before)
      (spelled : Spells text (.value json)) (back : Blanks after) :
      Spells (before ++ (text ++ after)) (.element json)
  | lastItem {text : List Char} {item : Json} (spelled : Spells text (.element item)) :
      Spells text (.items [item])
  | item {text others : List Char} {item : Json} {items : List Json}
      (spelled : Spells text (.element item)) (behind : Spells others (.items items)) :
      Spells (text ++ ',' :: others) (.items (item :: items))
  | lastMember {name text : List Char} {key : Content} {value : Json} (named : SpellsKey name key)
      (spelled : Spells text (.element value)) : Spells (name ++ text) (.members [(key, value)])
  | member {name text others : List Char} {key : Content} {value : Json}
      {members : List (Content × Json)} (named : SpellsKey name key)
      (spelled : Spells text (.element value)) (behind : Spells others (.members members)) :
      Spells (name ++ (text ++ ',' :: others)) (.members ((key, value) :: members))

/-- A text spells a value if it is an element as a whole. -/
def Denotes (text : String) (json : Json) : Prop :=
  Spells text.toList (.element json)

/-! ## White space -/

@[simp]
theorem blanks_nil : Blanks [] := by
  simp [Blanks]

theorem skipBlanks_append {blanks : List Char} (blank : Blanks blanks) (text : List Char) :
    skipBlanks (blanks ++ text) = skipBlanks text :=
  List.dropWhile_append_of_pos blank

theorem skipBlanks_cons {first : Char} (solid : isBlank first = false) (rest : List Char) :
    skipBlanks (first :: rest) = first :: rest := by
  rw [skipBlanks, List.dropWhile_cons_of_neg (by simp [solid])]

@[simp]
theorem skipBlanks_skipBlanks (text : List Char) : skipBlanks (skipBlanks text) = skipBlanks text :=
  List.dropWhile_idempotent isBlank text

theorem exists_skipBlanks (text : List Char) :
    ∃ blanks, Blanks blanks ∧ text = blanks ++ skipBlanks text :=
  ⟨text.takeWhile isBlank, fun _ => List.mem_takeWhile_imp, List.takeWhile_append_dropWhile.symm⟩

theorem endsNumber_append {blanks rest : List Char} (blank : Blanks blanks) (ended : EndsNumber rest) :
    EndsNumber (blanks ++ rest) := by
  cases blanks with
  | nil => exact ended
  | cons first blanks =>
      rintro other ⟨⟩
      have among : isBlank first = true := blank first List.mem_cons_self
      simp only [isBlank, Bool.or_eq_true, decide_eq_true_eq] at among
      rcases among with ((rfl | rfl) | rfl) | rfl <;> decide

/-! ## First characters -/

theorem isBlank_of_startsNumber {first : Char} (start : first = '-' ∨ first.isDigit = true) :
    isBlank first = false := by
  rw [Bool.eq_false_iff]
  intro blank
  simp only [isBlank, Bool.or_eq_true, decide_eq_true_eq] at blank
  rcases blank with ((rfl | rfl) | rfl) | rfl <;> exact absurd start (by decide)

/-- A phrase never starts with the closing of a container. -/
theorem Spells.exists_first {text : List Char} {phrase : Phrase} (spelled : Spells text phrase)
    (behind : List Char) :
    ∃ first rest, skipBlanks (text ++ behind) = first :: rest ∧ first ≠ ']' ∧ first ≠ '\x7d' := by
  induction spelled generalizing behind with
  | number number =>
      obtain ⟨first, others, rfl, start⟩ := number.exists_head
      refine ⟨first, others ++ behind, skipBlanks_cons (isBlank_of_startsNumber start) _, ?_, ?_⟩
      · rintro rfl
        exact absurd start (by decide)
      · rintro rfl
        exact absurd start (by decide)
  | element front _ _ ih =>
      rw [List.append_assoc, skipBlanks_append front, List.append_assoc]
      exact ih _
  | lastItem _ ih => exact ih behind
  | item _ _ ih =>
      rw [List.append_assoc]
      exact ih _
  | lastMember named =>
      obtain ⟨front, -, -⟩ := named
      rw [List.append_assoc, List.append_assoc, skipBlanks_append front]
      exact ⟨'"', _, skipBlanks_cons (by decide) _, by decide⟩
  | member named =>
      obtain ⟨front, -, -⟩ := named
      rw [List.append_assoc, List.append_assoc, skipBlanks_append front]
      exact ⟨'"', _, skipBlanks_cons (by decide) _, by decide⟩
  | _ => exact ⟨_, _, skipBlanks_cons (by decide) _, by decide⟩

end Json
end FragmentAssembly
