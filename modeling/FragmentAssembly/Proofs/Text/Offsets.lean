/-!
# Offsets into a text

Places in a text are given as numbers of bytes in front of them, in UTF-8. A slice between two places
exists only if both are between characters of the text and the first is not behind the second.
-/

namespace FragmentAssembly
namespace Text

/-- The number of bytes of a text. -/
def byteLength : List Char → Nat
  | [] => 0
  | character :: rest => character.utf8Size + byteLength rest

/-- What stands before an offset and what stands behind it, if the offset is between characters of the
text or at one of its ends. -/
def splitAtByte? : List Char → Nat → Option (List Char × List Char)
  | text, 0 => some ([], text)
  | [], _ + 1 => none
  | character :: rest, offset + 1 =>
      if character.utf8Size ≤ offset + 1 then
        (splitAtByte? rest (offset + 1 - character.utf8Size)).map fun (front, back) =>
          (character :: front, back)
      else
        none

/-- The part of a text between two offsets. -/
def slice? (text : List Char) (first last : Nat) : Option (List Char) :=
  (splitAtByte? text last).bind fun (front, _) => (splitAtByte? front first).map Prod.snd

/-- The part of a text behind an offset. -/
def sliceFrom? (text : List Char) (first : Nat) : Option (List Char) :=
  (splitAtByte? text first).map Prod.snd

/-- The offset of the first occurrence of a character. -/
def offsetOf? (wanted : Char) : List Char → Option Nat
  | [] => none
  | character :: rest =>
      if character = wanted then
        some 0
      else
        (offsetOf? wanted rest).map (character.utf8Size + ·)

@[simp]
theorem byteLength_append (front back : List Char) :
    byteLength (front ++ back) = byteLength front + byteLength back := by
  induction front with
  | nil => simp [byteLength]
  | cons character rest ih => rw [List.cons_append, byteLength, byteLength, ih, Nat.add_assoc]

theorem splitAtByte?_zero (text : List Char) : splitAtByte? text 0 = some ([], text) := by
  cases text <;> rfl

theorem splitAtByte?_cons {character : Char} {rest : List Char} {offset : Nat} (inside : offset ≠ 0) :
    splitAtByte? (character :: rest) offset =
      if character.utf8Size ≤ offset then
        (splitAtByte? rest (offset - character.utf8Size)).map fun (front, back) =>
          (character :: front, back)
      else
        none := by
  cases offset with
  | zero => exact absurd rfl inside
  | succ offset => rfl

/-- The offsets at which a text can be split are the lengths of its starts. -/
theorem splitAtByte?_eq_some_iff {text front back : List Char} {offset : Nat} :
    splitAtByte? text offset = some (front, back) ↔ text = front ++ back ∧ byteLength front = offset := by
  induction text generalizing front offset with
  | nil =>
      cases offset with
      | zero =>
          rw [splitAtByte?_zero, Option.some.injEq, Prod.mk.injEq]
          constructor
          · rintro ⟨rfl, rfl⟩
            exact ⟨rfl, rfl⟩
          · rintro ⟨whole, -⟩
            obtain ⟨rfl, rfl⟩ := List.append_eq_nil_iff.mp whole.symm
            exact ⟨rfl, rfl⟩
      | succ offset =>
          constructor
          · nofun
          · rintro ⟨whole, length⟩
            rw [(List.append_eq_nil_iff.mp whole.symm).1] at length
            cases length
  | cons character rest ih =>
      have positive := character.utf8Size_pos
      by_cases start : offset = 0
      · subst start
        rw [splitAtByte?_zero, Option.some.injEq, Prod.mk.injEq]
        constructor
        · rintro ⟨rfl, rfl⟩
          exact ⟨rfl, rfl⟩
        · rintro ⟨whole, length⟩
          cases front with
          | nil => exact ⟨rfl, whole⟩
          | cons first others =>
              obtain ⟨rfl, -⟩ := List.cons.inj whole
              rw [byteLength] at length
              omega
      · rw [splitAtByte?_cons start]
        constructor
        · intro found
          split at found
          · rename_i fits
            obtain ⟨⟨others, behind⟩, split, same⟩ := Option.map_eq_some_iff.mp found
            cases same
            obtain ⟨rfl, length⟩ := ih.mp split
            refine ⟨rfl, ?_⟩
            rw [byteLength]
            omega
          · cases found
        · rintro ⟨whole, length⟩
          cases front with
          | nil => exact absurd length.symm start
          | cons first others =>
              obtain ⟨rfl, behind⟩ := List.cons.inj whole
              rw [byteLength] at length
              have split : splitAtByte? rest (offset - character.utf8Size) = some (others, back) :=
                ih.mpr ⟨behind, by omega⟩
              rw [if_pos (by omega), split]
              rfl

theorem slice?_append (front middle back : List Char) :
    slice? (front ++ (middle ++ back)) (byteLength front) (byteLength front + byteLength middle) =
      some middle := by
  have ends : splitAtByte? (front ++ (middle ++ back)) (byteLength front + byteLength middle) =
      some (front ++ middle, back) :=
    splitAtByte?_eq_some_iff.mpr ⟨(List.append_assoc ..).symm, byteLength_append ..⟩
  have starts : splitAtByte? (front ++ middle) (byteLength front) = some (front, middle) :=
    splitAtByte?_eq_some_iff.mpr ⟨rfl, rfl⟩
  simp only [slice?, ends, Option.bind_some, starts, Option.map_some]

theorem sliceFrom?_append (front back : List Char) :
    sliceFrom? (front ++ back) (byteLength front) = some back := by
  have starts : splitAtByte? (front ++ back) (byteLength front) = some (front, back) :=
    splitAtByte?_eq_some_iff.mpr ⟨rfl, rfl⟩
  rw [sliceFrom?, starts]
  rfl

theorem offsetOf?_of_notMem {wanted : Char} {text : List Char} (missing : wanted ∉ text) :
    offsetOf? wanted text = none := by
  induction text with
  | nil => rfl
  | cons character rest ih =>
      rw [List.mem_cons, not_or] at missing
      rw [offsetOf?, if_neg (Ne.symm missing.1), ih missing.2]
      rfl

theorem offsetOf?_append {wanted : Char} {front : List Char} (missing : wanted ∉ front)
    (back : List Char) : offsetOf? wanted (front ++ wanted :: back) = some (byteLength front) := by
  induction front with
  | nil => exact if_pos rfl
  | cons character rest ih =>
      rw [List.mem_cons, not_or] at missing
      rw [List.cons_append, offsetOf?, if_neg (Ne.symm missing.1), ih missing.2]
      rfl

end Text
end FragmentAssembly
