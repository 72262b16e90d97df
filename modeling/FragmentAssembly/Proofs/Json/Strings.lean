import FragmentAssembly.Json.Reader
import FragmentAssembly.Json.Writer

/-!
# Strings in JSON text

The ways in which a string can be written, as a grammar. The reader takes exactly these, up to the
closing quote. A text that is written with escapes is read back as itself.
-/

namespace FragmentAssembly
namespace Json

/-- The ways to write one element of a string. -/
inductive SpellsElement : List Char → Element → Prop where
  /-- The character itself. -/
  | plain {character : Char} (visible : 0x20 ≤ character.toNat) (unquoted : character ≠ '"')
      (unescaped : character ≠ '\\') : SpellsElement [character] (.character character)
  /-- An escape of one letter. -/
  | letter {letter character : Char} (named : escaped? letter = some character) :
      SpellsElement ['\\', letter] (.character character)
  /-- An escape of four digits. -/
  | unit {first second third fourth : Char} {code : Nat}
      (named : codeUnit? first second third fourth = some code) :
      SpellsElement ['\\', 'u', first, second, third, fourth] (.ofUnit code)

/-- The ways to write several elements. -/
inductive SpellsElements : List Char → Content → Prop where
  | nil : SpellsElements [] []
  | cons {text others : List Char} {element : Element} {elements : Content}
      (first : SpellsElement text element) (rest : SpellsElements others elements) :
      SpellsElements (text ++ others) (element :: elements)

/-- The ways to write a string between its quotes. Two escapes may make one character. -/
inductive SpellsContent : List Char → Content → Prop where
  | intro {text : List Char} {elements : Content} (spelled : SpellsElements text elements) :
      SpellsContent text (joinSurrogates elements)

/-! ## Reading -/

/-- An escape of one letter is never taken for one of four digits: `u` names no character. -/
theorem readElements_letter {letter character : Char} (named : escaped? letter = some character)
    (rest : List Char) :
    readElements ('\\' :: letter :: rest) =
      (readElements rest).map (consElement (.character character)) := by
  rw [readElements.eq_4, named]
  rintro - - - - - rfl -
  cases named

theorem readElements_append {text : List Char} {elements : Content}
    (spelled : SpellsElements text elements) (rest : List Char) :
    readElements (text ++ '"' :: rest) = some (elements, rest) := by
  induction spelled with
  | nil => simp [readElements]
  | cons first others ih =>
      rw [List.append_assoc]
      cases first with
      | plain visible unquoted unescaped =>
          simp [readElements, ih, consElement, unescaped, Nat.not_lt.mpr visible]
      | letter named =>
          rw [List.cons_append, List.cons_append, List.nil_append, readElements_letter named, ih]
          rfl
      | unit named => simp [readElements, named, ih, consElement]

theorem spellsElements_of_readElements {text rest : List Char} {elements : Content}
    (read : readElements text = some (elements, rest)) :
    ∃ inner, text = inner ++ '"' :: rest ∧ SpellsElements inner elements := by
  fun_induction readElements text generalizing elements rest with
  | case1 => cases read
  | case2 =>
      cases read
      exact ⟨[], rfl, .nil⟩
  | case3 first second third fourth behind code named ih =>
      obtain ⟨⟨others, rest⟩, inside, same⟩ := Option.map_eq_some_iff.mp read
      obtain ⟨inner, rfl, spelled⟩ := ih inside
      cases same
      exact ⟨_, rfl, .cons (.unit named) spelled⟩
  | case4 => cases read
  | case5 letter behind other character named ih =>
      obtain ⟨⟨others, rest⟩, inside, same⟩ := Option.map_eq_some_iff.mp read
      obtain ⟨inner, rfl, spelled⟩ := ih inside
      cases same
      exact ⟨_, rfl, .cons (.letter named) spelled⟩
  | case6 => cases read
  | case7 => cases read
  | case8 character behind unquoted _ _ allowed ih =>
      obtain ⟨⟨others, rest⟩, inside, same⟩ := Option.map_eq_some_iff.mp read
      obtain ⟨inner, rfl, spelled⟩ := ih inside
      cases same
      have visible : 0x20 ≤ character.toNat ∧ character ≠ '\\' := by simpa using allowed
      exact ⟨_, rfl, .cons (.plain visible.1 unquoted visible.2) spelled⟩

theorem readContent_append {text : List Char} {content : Content}
    (spelled : SpellsContent text content) (rest : List Char) :
    readContent (text ++ '"' :: rest) = some (content, rest) := by
  obtain ⟨spelled⟩ := spelled
  rw [readContent, readElements_append spelled]
  rfl

theorem spellsContent_of_readContent {text rest : List Char} {content : Content}
    (read : readContent text = some (content, rest)) :
    ∃ inner, text = inner ++ '"' :: rest ∧ SpellsContent inner content := by
  obtain ⟨⟨elements, rest⟩, inside, same⟩ := Option.map_eq_some_iff.mp read
  obtain ⟨inner, rfl, spelled⟩ := spellsElements_of_readElements inside
  cases same
  exact ⟨inner, rfl, .intro spelled⟩

/-! ## Writing -/

theorem hexValue?_hexDigit {value : Nat} (small : value < 16) :
    hexValue? (hexDigit value) = some value := by
  revert value
  decide

theorem codeUnit?_hexDigit {code : Nat} (small : code < 0x10000) :
    codeUnit? (hexDigit (code / 4096 % 16)) (hexDigit (code / 256 % 16)) (hexDigit (code / 16 % 16))
      (hexDigit (code % 16)) = some code := by
  have sum : 4096 * (code / 4096 % 16) + 256 * (code / 256 % 16) + 16 * (code / 16 % 16) +
      code % 16 = code := by
    omega
  simp [codeUnit?, hexValue?_hexDigit, Nat.mod_lt, sum]

theorem spells_writeCharacter (character : Char) :
    SpellsElement (writeCharacter character) (.character character) := by
  unfold writeCharacter
  split
  case h_8 unquoted unescaped _ _ _ _ _ =>
    split
    · rename_i control
      have same : Element.ofUnit character.toNat = .character character := by
        rw [Element.ofUnit, if_neg (by omega), Char.ofNat_toNat]
      rw [← same]
      exact .unit (codeUnit?_hexDigit (by omega))
    · rename_i visible
      exact .plain (Nat.not_lt.mp visible) unquoted unescaped
  all_goals exact .letter rfl

theorem joinSurrogates_characters (characters : List Char) :
    joinSurrogates (characters.map .character) = characters.map .character := by
  induction characters with
  | nil => rfl
  | cons first others ih => rw [List.map_cons, joinSurrogates, ih]; simp

theorem spells_writeText (value : String) :
    SpellsContent ((Content.ofString value).flatMap writeElement) (Content.ofString value) := by
  have elements : ∀ characters : List Char,
      SpellsElements ((characters.map .character).flatMap writeElement)
        (characters.map .character) := by
    intro characters
    induction characters with
    | nil => exact .nil
    | cons first others ih => exact .cons (spells_writeCharacter first) ih
  have joined := SpellsContent.intro (elements value.toList)
  rwa [joinSurrogates_characters] at joined

end Json
end FragmentAssembly
