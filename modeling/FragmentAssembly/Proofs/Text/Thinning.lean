import FragmentAssembly.Proofs.Text.Trimming
import Mathlib.Data.List.Forall2

/-!
# Texts with white space taken out

A text is thinned by taking out some of its white space, at any places. Characters that are not white space
stay, so that the text keeps its separators and its pieces are thinned one by one. A text that holds white
space at its ends only is trimmed to the same text before and after.
-/

namespace FragmentAssembly
namespace Text

/-- The second text is the first one without some of its white space. -/
inductive Thinned : List Char → List Char → Prop where
  | nil : Thinned [] []
  | keep (character : Char) {text thin : List Char} (rest : Thinned text thin) :
      Thinned (character :: text) (character :: thin)
  | drop {character : Char} (white : isWhiteSpace character = true) {text thin : List Char}
      (rest : Thinned text thin) : Thinned (character :: text) thin

namespace Thinned

theorem refl (text : List Char) : Thinned text text := by
  induction text with
  | nil => exact .nil
  | cons character rest ih => exact .keep character ih

theorem append {front thinFront back thinBack : List Char} (first : Thinned front thinFront)
    (second : Thinned back thinBack) : Thinned (front ++ back) (thinFront ++ thinBack) := by
  induction first with
  | nil => exact second
  | keep character _ ih => exact .keep character ih
  | drop white _ ih => exact .drop white ih

theorem of_blank {text : List Char} (blank : Blank text) : Thinned text [] := by
  induction text with
  | nil => exact .nil
  | cons character rest ih =>
      obtain ⟨white, behind⟩ := List.forall_mem_cons.mp blank
      exact .drop white (ih behind)

theorem trimStart (text : List Char) : Thinned text (trimStart text) := by
  have split := (of_blank (blank_takeWhile text)).append (refl (Text.trimStart text))
  rwa [Text.trimStart, List.takeWhile_append_dropWhile, List.nil_append] at split

theorem trim (text : List Char) : Thinned text (trim text) := by
  obtain ⟨-, front, back, before, behind, split⟩ := exists_trim text
  have thinned := ((of_blank before).append (refl (Text.trim text))).append (of_blank behind)
  rwa [← split, List.nil_append, List.append_nil] at thinned

theorem subset {text thin : List Char} (thinned : Thinned text thin) : thin ⊆ text := by
  induction thinned with
  | nil => exact List.Subset.refl []
  | keep character _ ih => exact List.cons_subset_cons character ih
  | drop _ _ ih => exact List.subset_cons_of_subset _ ih

theorem blank {text thin : List Char} (thinned : Thinned text thin) (blank : Blank text) :
    Blank thin :=
  fun character member => blank character (thinned.subset member)

theorem eq_of_solid {text thin : List Char} (thinned : Thinned text thin)
    (solid : ∀ character ∈ text, isWhiteSpace character = false) : thin = text := by
  induction thinned with
  | nil => rfl
  | keep character _ ih => rw [ih fun other member => solid other (List.mem_cons_of_mem _ member)]
  | drop white _ ih =>
      have dense := solid _ List.mem_cons_self
      rw [white] at dense
      cases dense

theorem exists_append {front back thin : List Char} (thinned : Thinned (front ++ back) thin) :
    ∃ thinFront thinBack, thin = thinFront ++ thinBack ∧ Thinned front thinFront ∧
      Thinned back thinBack := by
  induction front generalizing thin with
  | nil => exact ⟨[], thin, rfl, .nil, thinned⟩
  | cons character rest ih =>
      cases thinned with
      | keep _ behind =>
          obtain ⟨thinFront, thinBack, rfl, first, second⟩ := ih behind
          exact ⟨character :: thinFront, thinBack, rfl, .keep character first, second⟩
      | drop white behind =>
          obtain ⟨thinFront, thinBack, rfl, first, second⟩ := ih behind
          exact ⟨thinFront, thinBack, rfl, .drop white first, second⟩

/-- A character that is not white space stays between the parts around it. -/
theorem exists_append_cons {front back thin : List Char} {character : Char}
    (dense : isWhiteSpace character = false) (thinned : Thinned (front ++ character :: back) thin) :
    ∃ thinFront thinBack, thin = thinFront ++ character :: thinBack ∧ Thinned front thinFront ∧
      Thinned back thinBack := by
  obtain ⟨thinFront, others, rfl, first, second⟩ := thinned.exists_append
  cases second with
  | keep _ behind => exact ⟨thinFront, _, rfl, first, behind⟩
  | drop white _ =>
      rw [white] at dense
      cases dense

/-- Where white space is only around a text, it can be taken out before trimming. -/
theorem trim_eq {text thin : List Char} (thinned : Thinned text thin)
    (solid : ∀ character ∈ Text.trim text, isWhiteSpace character = false) :
    Text.trim thin = Text.trim text := by
  obtain ⟨bare, front, back, before, behind, split⟩ := exists_trim text
  rw [split] at thinned
  obtain ⟨others, thinBack, rfl, firsts, last⟩ := thinned.exists_append
  obtain ⟨thinFront, core, rfl, first, middle⟩ := firsts.exists_append
  rw [middle.eq_of_solid solid]
  exact trim_eq_iff.mpr ⟨bare, thinFront, thinBack, first.blank before, last.blank behind, rfl⟩

theorem extendFirst_keep (character : Char) {parts thinParts : List (List Char)}
    (thinned : List.Forall₂ Thinned parts thinParts) :
    List.Forall₂ Thinned (extendFirst character parts) (extendFirst character thinParts) := by
  cases thinned with
  | nil => exact .cons (refl [character]) .nil
  | cons first others => exact .cons (.keep character first) others

theorem extendFirst_drop {character : Char} (white : isWhiteSpace character = true)
    {parts thinParts : List (List Char)} (some : parts ≠ [])
    (thinned : List.Forall₂ Thinned parts thinParts) :
    List.Forall₂ Thinned (extendFirst character parts) thinParts := by
  cases thinned with
  | nil => exact absurd rfl some
  | cons first others => exact .cons (.drop white first) others

/-- Between separators that stay, the pieces of a text are thinned one by one. -/
theorem forall₂_pieces {separator : Char} (dense : isWhiteSpace separator = false)
    {text thin : List Char} (thinned : Thinned text thin) :
    List.Forall₂ Thinned (pieces separator text) (pieces separator thin) := by
  induction thinned with
  | nil => exact .cons .nil .nil
  | keep character _ ih =>
      rw [pieces, pieces]
      split
      · exact .cons .nil ih
      · exact extendFirst_keep character ih
  | @drop character white text thin _ ih =>
      have different : character ≠ separator := by
        rintro rfl
        rw [white] at dense
        cases dense
      rw [pieces, if_neg different]
      exact extendFirst_drop white (pieces_ne_nil separator text) ih

theorem map_trim_eq {parts thinParts : List (List Char)}
    (thinned : List.Forall₂ Thinned parts thinParts)
    (solid : ∀ piece ∈ parts, ∀ character ∈ Text.trim piece, isWhiteSpace character = false) :
    thinParts.map Text.trim = parts.map Text.trim := by
  induction thinned with
  | nil => rfl
  | cons first _ ih =>
      obtain ⟨here, behind⟩ := List.forall_mem_cons.mp solid
      rw [List.map_cons, List.map_cons, first.trim_eq here, ih behind]

end Thinned

end Text
end FragmentAssembly
