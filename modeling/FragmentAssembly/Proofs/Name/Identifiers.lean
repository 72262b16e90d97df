import FragmentAssembly.Name
import FragmentAssembly.Proofs.Text.Trimming

/-!
# Characters of identifiers

All characters of an identifier are letters, numbers, underscores and dollar signs. By the tables of the
character classes none of these is white space, so that trimming leaves an identifier as it is.
-/

namespace FragmentAssembly
namespace Name

theorem continues_of_startsIdentifier {character : Char} (starts : startsIdentifier character = true) :
    continuesIdentifier character = true := by
  simp only [startsIdentifier, Bool.or_eq_true] at starts
  simp only [continuesIdentifier, Text.isAlphanumeric, Bool.or_eq_true]
  rcases starts with (letter | underscore) | dollar
  · exact .inl (.inl (.inl letter))
  · exact .inl (.inr underscore)
  · exact .inr dollar

theorem continues_of_mem {text : List Char} (identifier : isIdentifier text = true) {character : Char}
    (member : character ∈ text) : continuesIdentifier character = true := by
  cases text with
  | nil => cases member
  | cons first rest =>
      rw [isIdentifier, Bool.and_eq_true, List.all_eq_true] at identifier
      rcases List.mem_cons.mp member with rfl | inside
      · exact continues_of_startsIdentifier identifier.1
      · exact identifier.2 character inside

/-- No interval of white space has a character that may stand in an identifier. -/
theorem intervals_not_continue :
    ∀ interval ∈ Text.whiteSpaceIntervals, ∀ distance < interval.2 - interval.1 + 1,
      continuesIdentifier (Char.ofNat (interval.1 + distance)) = false := by
  decide +kernel

theorem not_continues_of_isWhiteSpace {character : Char} (white : Text.isWhiteSpace character = true) :
    continuesIdentifier character = false := by
  obtain ⟨interval, listed, within⟩ := List.any_eq_true.mp white
  simp only [Bool.and_eq_true, decide_eq_true_eq] at within
  have none := intervals_not_continue interval listed (character.toNat - interval.1) (by omega)
  rwa [Nat.add_sub_cancel' within.1, Char.ofNat_toNat] at none

theorem solid_of_isIdentifier {text : List Char} (identifier : isIdentifier text = true) :
    ∀ character ∈ text, Text.isWhiteSpace character = false := by
  intro character member
  cases white : Text.isWhiteSpace character with
  | false => rfl
  | true =>
      rw [← not_continues_of_isWhiteSpace white]
      exact (continues_of_mem identifier member).symm

theorem bare_of_isIdentifier {text : List Char} (identifier : isIdentifier text = true) :
    Text.Bare text :=
  have inside := solid_of_isIdentifier identifier
  ⟨fun _ first => inside _ (List.mem_of_head? first),
    fun _ last => inside _ (List.mem_of_getLast? last)⟩

end Name
end FragmentAssembly
