import FragmentAssembly.Proofs.Json.Grammar

/-!
# Reading JSON text by the grammar

The reader accepts a text exactly if the grammar derives it, and returns the value that the text
spells. In particular the bound on the depth of the reading is never reached, and no text spells two
values.
-/

namespace FragmentAssembly
namespace Json

/-! ## White space in front -/

theorem readValue_skipBlanks (fuel : Nat) (text : List Char) :
    readValue fuel (skipBlanks text) = readValue fuel text := by
  cases fuel with
  | zero => rfl
  | succ fuel => simp [readValue]

theorem readItems_skipBlanks (fuel : Nat) (text : List Char) :
    readItems fuel (skipBlanks text) = readItems fuel text := by
  cases fuel with
  | zero => rfl
  | succ fuel => rw [readItems, readItems, readValue_skipBlanks]

theorem readMembers_skipBlanks (fuel : Nat) (text : List Char) :
    readMembers fuel (skipBlanks text) = readMembers fuel text := by
  cases fuel with
  | zero => rfl
  | succ fuel => rw [readMembers, readMembers, readKey, readKey, skipBlanks_skipBlanks]

theorem readValue_append {blanks : List Char} (blank : Blanks blanks) (fuel : Nat)
    (text : List Char) : readValue fuel (blanks ++ text) = readValue fuel text := by
  rw [← readValue_skipBlanks, skipBlanks_append blank, readValue_skipBlanks]

/-! ## What is derived is read -/

theorem readKey_append {name : List Char} {key : Content} (named : SpellsKey name key)
    (rest : List Char) : readKey (name ++ rest) = some (key, rest) := by
  obtain ⟨front, spelled, back⟩ := named
  rw [readKey, List.append_assoc, skipBlanks_append front, List.cons_append,
    skipBlanks_cons (by decide), List.append_assoc, List.cons_append]
  simp only [readContent_append spelled, Option.bind_eq_bind, Option.bind_some]
  rw [List.append_assoc, skipBlanks_append back, List.cons_append, skipBlanks_cons (by decide)]
  rfl

theorem readValue_number {literal rest : List Char} (number : IsNumber literal)
    (ended : EndsNumber rest) (fuel : Nat) :
    readValue (fuel + 1) (literal ++ rest) = some (.number literal, rest) := by
  have read : readNumber (literal ++ rest) = some (literal, rest) := readNumber_append number ended
  obtain ⟨first, others, rfl, start⟩ := number.exists_head
  rw [List.cons_append] at read ⊢
  rw [readValue, skipBlanks_cons (isBlank_of_startsNumber start)]
  split
  case h_7 => rw [read]; rfl
  all_goals
    rename_i same
    obtain ⟨rfl, -⟩ := List.cons.inj same
    exact absurd start (by decide)

theorem readValue_array {text others rest : List Char} {first : Char} {items : List Json} {fuel : Nat}
    (start : skipBlanks text = first :: others) (more : first ≠ ']')
    (read : readItems fuel text = some (items, rest)) :
    readValue (fuel + 1) ('[' :: text) = some (.array items, rest) := by
  rw [← readItems_skipBlanks, start] at read
  rw [readValue, skipBlanks_cons (by decide)]
  simp [start, more, read]

theorem readValue_object {text others rest : List Char} {first : Char}
    {members : List (Content × Json)} {fuel : Nat} (start : skipBlanks text = first :: others)
    (more : first ≠ '\x7d') (read : readMembers fuel text = some (members, rest)) :
    readValue (fuel + 1) ('\x7b' :: text) = some (.object members, rest) := by
  rw [← readMembers_skipBlanks, start] at read
  rw [readValue, skipBlanks_cons (by decide)]
  simp [start, more, read]

/-! ## Items and members, one by one -/

section Step

variable {fuel : Nat} {text remaining others rest : List Char}

theorem readItems_last {item : Json} (read : readValue fuel text = some (item, remaining))
    (sign : skipBlanks remaining = ']' :: rest) : readItems (fuel + 1) text = some ([item], rest) := by
  rw [readItems, read]
  simp only [sign]

theorem readItems_more {item : Json} {items : List Json}
    (read : readValue fuel text = some (item, remaining)) (sign : skipBlanks remaining = ',' :: others)
    (behind : readItems fuel others = some (items, rest)) :
    readItems (fuel + 1) text = some (item :: items, rest) := by
  rw [readItems, read]
  simp only [sign, behind, Option.map_some]

theorem readMembers_last {key : Content} {value : Json} {name : List Char}
    (named : SpellsKey name key) (read : readValue fuel text = some (value, remaining))
    (sign : skipBlanks remaining = '\x7d' :: rest) :
    readMembers (fuel + 1) (name ++ text) = some ([(key, value)], rest) := by
  rw [readMembers, readKey_append named]
  simp only [read, sign]

theorem readMembers_more {key : Content} {value : Json} {members : List (Content × Json)}
    {name : List Char} (named : SpellsKey name key)
    (read : readValue fuel text = some (value, remaining)) (sign : skipBlanks remaining = ',' :: others)
    (behind : readMembers fuel others = some (members, rest)) :
    readMembers (fuel + 1) (name ++ text) = some ((key, value) :: members, rest) := by
  rw [readMembers, readKey_append named]
  simp only [read, sign, behind, Option.map_some]

end Step

/-- What the reader makes of a phrase under every bound that is large enough for it. -/
def Phrase.ReadFrom (text : List Char) : Phrase → Prop
  | .value json => ∀ rest fuel, EndsNumber rest → 2 * text.length ≤ fuel + 1 →
      readValue (fuel + 1) (text ++ rest) = some (json, rest)
  | .element json => ∀ rest fuel, EndsNumber rest → 2 * text.length ≤ fuel + 1 →
      ∃ remaining, skipBlanks remaining = skipBlanks rest ∧
        readValue (fuel + 1) (text ++ rest) = some (json, remaining)
  | .items list => ∀ rest fuel, 2 * text.length ≤ fuel →
      readItems (fuel + 2) (text ++ ']' :: rest) = some (list, rest)
  | .members list => ∀ rest fuel, 2 * text.length ≤ fuel →
      readMembers (fuel + 2) (text ++ '\x7d' :: rest) = some (list, rest)

theorem endsNumber_cons {first : Char} {rest : List Char}
    (other : first = ',' ∨ first = ']' ∨ first = '\x7d') : EndsNumber (first :: rest) := by
  rintro same ⟨⟩
  rcases other with rfl | rfl | rfl <;> decide

/-- Induction over the derivation. A container spends one unit of the bound on itself and one on each
of its parts, and its text is longer than its parts by at least one character for each. -/
theorem Spells.readFrom {text : List Char} {phrase : Phrase} (spelled : Spells text phrase) :
    phrase.ReadFrom text := by
  induction spelled with
  | null => exact fun _ _ _ _ => rfl
  | truth => exact fun _ _ _ _ => rfl
  | falsity => exact fun _ _ _ _ => rfl
  | number number => exact fun rest fuel ended _ => readValue_number number ended fuel
  | string spelled =>
      refine fun rest fuel _ _ => ?_
      rw [List.cons_append, List.append_assoc, readValue, skipBlanks_cons (by decide)]
      simp [readContent_append spelled]
  | emptyArray blank =>
      refine fun rest fuel _ _ => ?_
      rw [List.cons_append, List.append_assoc, readValue, skipBlanks_cons (by decide)]
      simp [skipBlanks_append blank, skipBlanks_cons (show isBlank ']' = false by decide)]
  | @array text items inside ih =>
      refine fun rest fuel _ enough => ?_
      obtain ⟨first, others, start, more, -⟩ := inside.exists_first (']' :: rest)
      simp only [List.length_cons, List.length_append] at enough
      obtain ⟨fuel, rfl⟩ := Nat.exists_eq_add_of_le' (show 2 ≤ fuel by omega)
      rw [List.cons_append, List.append_assoc]
      exact readValue_array start more (ih rest fuel (by omega))
  | emptyObject blank =>
      refine fun rest fuel _ _ => ?_
      rw [List.cons_append, List.append_assoc, readValue, skipBlanks_cons (by decide)]
      simp [skipBlanks_append blank, skipBlanks_cons (show isBlank '\x7d' = false by decide)]
  | object inside ih =>
      refine fun rest fuel _ enough => ?_
      obtain ⟨first, others, start, -, more⟩ := inside.exists_first ('\x7d' :: rest)
      simp only [List.length_cons, List.length_append] at enough
      obtain ⟨fuel, rfl⟩ := Nat.exists_eq_add_of_le' (show 2 ≤ fuel by omega)
      rw [List.cons_append, List.append_assoc]
      exact readValue_object start more (ih rest fuel (by omega))
  | @element before text after json front spelled back ih =>
      refine fun rest fuel ended enough => ⟨after ++ rest, skipBlanks_append back rest, ?_⟩
      rw [List.append_assoc, readValue_append front, List.append_assoc]
      refine ih (after ++ rest) fuel (endsNumber_append back ended) ?_
      simp only [List.length_append] at enough
      omega
  | lastItem spelled ih =>
      refine fun rest fuel enough => ?_
      obtain ⟨remaining, same, read⟩ := ih (']' :: rest) fuel (endsNumber_cons (by simp)) (by omega)
      exact readItems_last read (same.trans (skipBlanks_cons (by decide) rest))
  | @item text others item items spelled behind ih ihBehind =>
      refine fun rest fuel enough => ?_
      simp only [List.length_append, List.length_cons] at enough
      obtain ⟨remaining, same, read⟩ :=
        ih (',' :: (others ++ ']' :: rest)) fuel (endsNumber_cons (by simp)) (by omega)
      obtain ⟨fuel, rfl⟩ := Nat.exists_eq_add_of_le' (show 1 ≤ fuel by omega)
      rw [List.append_assoc, List.cons_append]
      exact readItems_more read (same.trans (skipBlanks_cons (by decide) _))
        (ihBehind rest fuel (by omega))
  | lastMember named spelled ih =>
      refine fun rest fuel enough => ?_
      simp only [List.length_append] at enough
      obtain ⟨remaining, same, read⟩ :=
        ih ('\x7d' :: rest) fuel (endsNumber_cons (by simp)) (by omega)
      rw [List.append_assoc]
      exact readMembers_last named read (same.trans (skipBlanks_cons (by decide) rest))
  | @member name text others key value members named spelled behind ih ihBehind =>
      refine fun rest fuel enough => ?_
      simp only [List.length_append, List.length_cons] at enough
      obtain ⟨remaining, same, read⟩ :=
        ih (',' :: (others ++ '\x7d' :: rest)) fuel (endsNumber_cons (by simp)) (by omega)
      obtain ⟨fuel, rfl⟩ := Nat.exists_eq_add_of_le' (show 1 ≤ fuel by omega)
      rw [List.append_assoc, List.append_assoc, List.cons_append]
      exact readMembers_more named read (same.trans (skipBlanks_cons (by decide) _))
        (ihBehind rest fuel (by omega))

/-! ## What is read is derived -/

theorem spellsKey_of_readKey {text rest : List Char} {key : Content}
    (read : readKey text = some (key, rest)) : ∃ name, text = name ++ rest ∧ SpellsKey name key := by
  obtain ⟨before, front, whole⟩ := exists_skipBlanks text
  unfold readKey at read
  split at read
  · rename_i behind opened
    obtain ⟨⟨content, beyond⟩, inside, closed⟩ := Option.bind_eq_some_iff.mp read
    obtain ⟨inner, rfl, spelled⟩ := spellsContent_of_readContent inside
    obtain ⟨after, back, gap⟩ := exists_skipBlanks beyond
    dsimp only at closed
    split at closed
    · rename_i remaining colon
      cases closed
      rw [colon] at gap
      refine ⟨_, ?_, .intro front spelled back⟩
      rw [whole, opened, gap]
      simp
    · cases closed
  · cases read

/-- What the reader has taken from a text whenever it returns under a bound. -/
structure Derives (fuel : Nat) : Prop where
  value : ∀ {text rest : List Char} {json : Json}, readValue fuel text = some (json, rest) →
    ∃ before inner, Blanks before ∧ text = before ++ (inner ++ rest) ∧ Spells inner (.value json)
  items : ∀ {text rest : List Char} {items : List Json}, readItems fuel text = some (items, rest) →
    ∃ inner, text = inner ++ ']' :: rest ∧ Spells inner (.items items)
  members : ∀ {text rest : List Char} {members : List (Content × Json)},
    readMembers fuel text = some (members, rest) →
      ∃ inner, text = inner ++ '\x7d' :: rest ∧ Spells inner (.members members)

namespace Derives

variable {fuel : Nat} {text rest : List Char}

theorem element {json : Json} (derives : Derives fuel)
    (read : readValue fuel text = some (json, rest)) :
    ∃ inner, text = inner ++ skipBlanks rest ∧ Spells inner (.element json) := by
  obtain ⟨before, inner, front, rfl, spelled⟩ := derives.value read
  obtain ⟨after, back, gap⟩ := exists_skipBlanks rest
  refine ⟨before ++ (inner ++ after), ?_, .element front spelled back⟩
  rw [List.append_assoc, List.append_assoc, ← gap]

theorem value_succ {json : Json} (derives : Derives fuel)
    (read : readValue (fuel + 1) text = some (json, rest)) :
    ∃ before inner, Blanks before ∧ text = before ++ (inner ++ rest) ∧
      Spells inner (.value json) := by
  obtain ⟨before, front, whole⟩ := exists_skipBlanks text
  rw [readValue] at read
  split at read
  case h_1 same =>
    cases read
    exact ⟨before, _, front, by rw [whole, same]; rfl, .null⟩
  case h_2 same =>
    cases read
    exact ⟨before, _, front, by rw [whole, same]; rfl, .truth⟩
  case h_3 same =>
    cases read
    exact ⟨before, _, front, by rw [whole, same]; rfl, .falsity⟩
  case h_4 same =>
    obtain ⟨⟨content, beyond⟩, inside, result⟩ := Option.map_eq_some_iff.mp read
    obtain ⟨inner, rfl, spelled⟩ := spellsContent_of_readContent inside
    cases result
    exact ⟨before, _, front, by rw [whole, same]; simp, .string spelled⟩
  case h_5 behind same =>
    obtain ⟨gap, blank, cut⟩ := exists_skipBlanks behind
    split at read
    · rename_i closed
      cases read
      exact ⟨before, _, front, by rw [whole, same, cut, closed]; simp, .emptyArray blank⟩
    · obtain ⟨⟨items, beyond⟩, inside, result⟩ := Option.map_eq_some_iff.mp read
      rw [readItems_skipBlanks] at inside
      obtain ⟨inner, rfl, spelled⟩ := derives.items inside
      cases result
      exact ⟨before, _, front, by rw [whole, same]; simp, .array spelled⟩
  case h_6 behind same =>
    obtain ⟨gap, blank, cut⟩ := exists_skipBlanks behind
    split at read
    · rename_i closed
      cases read
      exact ⟨before, _, front, by rw [whole, same, cut, closed]; simp, .emptyObject blank⟩
    · obtain ⟨⟨members, beyond⟩, inside, result⟩ := Option.map_eq_some_iff.mp read
      rw [readMembers_skipBlanks] at inside
      obtain ⟨inner, rfl, spelled⟩ := derives.members inside
      cases result
      exact ⟨before, _, front, by rw [whole, same]; simp, .object spelled⟩
  case h_7 =>
    obtain ⟨⟨literal, beyond⟩, inside, result⟩ := Option.map_eq_some_iff.mp read
    obtain ⟨cut, number⟩ := isNumber_of_readNumber inside
    cases result
    exact ⟨before, _, front, by rw [whole, cut], .number number⟩

theorem items_succ {items : List Json} (derives : Derives fuel)
    (read : readItems (fuel + 1) text = some (items, rest)) :
    ∃ inner, text = inner ++ ']' :: rest ∧ Spells inner (.items items) := by
  rw [readItems] at read
  split at read
  · cases read
  · rename_i item beyond first
    obtain ⟨inner, rfl, spelled⟩ := derives.element first
    split at read
    · rename_i closed
      cases read
      exact ⟨inner, by rw [closed], .lastItem spelled⟩
    · rename_i behind comma
      obtain ⟨⟨others, remaining⟩, second, result⟩ := Option.map_eq_some_iff.mp read
      obtain ⟨last, rfl, spelledLast⟩ := derives.items second
      cases result
      exact ⟨_, by rw [comma]; simp, .item spelled spelledLast⟩
    · cases read

theorem members_succ {members : List (Content × Json)} (derives : Derives fuel)
    (read : readMembers (fuel + 1) text = some (members, rest)) :
    ∃ inner, text = inner ++ '\x7d' :: rest ∧ Spells inner (.members members) := by
  rw [readMembers] at read
  split at read
  · cases read
  · rename_i key behind opened
    obtain ⟨name, rfl, named⟩ := spellsKey_of_readKey opened
    split at read
    · cases read
    · rename_i value beyond first
      obtain ⟨inner, rfl, spelled⟩ := derives.element first
      split at read
      · rename_i closed
        cases read
        exact ⟨name ++ inner, by rw [closed]; simp, .lastMember named spelled⟩
      · rename_i behind comma
        obtain ⟨⟨others, remaining⟩, second, result⟩ := Option.map_eq_some_iff.mp read
        obtain ⟨last, rfl, spelledLast⟩ := derives.members second
        cases result
        exact ⟨_, by rw [comma]; simp, .member named spelled spelledLast⟩
      · cases read

end Derives

theorem derives (fuel : Nat) : Derives fuel := by
  induction fuel with
  | zero =>
      constructor
      all_goals
        intro _ _ _ read
        cases read
  | succ fuel ih => exact ⟨ih.value_succ, ih.items_succ, ih.members_succ⟩

/-! ## Whole texts -/

/-- The reader computes what a text spells. -/
theorem read?_eq_some_iff {text : String} {json : Json} :
    read? text = some json ↔ Denotes text json := by
  constructor
  · intro read
    unfold read? readText at read
    split at read
    · rename_i value rest taken
      split at read
      · rename_i ended
        cases read
        obtain ⟨inner, whole, spelled⟩ := (derives _).element taken
        rw [List.isEmpty_iff.mp ended, List.append_nil] at whole
        rw [Denotes, whole]
        exact spelled
      · cases read
    · cases read
  · intro spelled
    have ended : EndsNumber [] := by
      rintro first ⟨⟩
    obtain ⟨rest, same, taken⟩ :=
      spelled.readFrom [] (2 * text.toList.length + 1) ended (by omega)
    have stopped : skipBlanks rest = [] := same
    rw [List.append_nil] at taken
    rw [read?, readText, taken]
    simp [stopped]

end Json
end FragmentAssembly
