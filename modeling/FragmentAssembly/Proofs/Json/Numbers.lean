import FragmentAssembly.Json.Reader
import Mathlib.Data.List.TakeWhile

/-!
# Numbers in JSON text

The literals of RFC 8259, as a grammar. A literal is read from the start of a text exactly if what
follows cannot be taken for more of it, and whatever is read is a literal.
-/

namespace FragmentAssembly
namespace Json

/-- A digit, or several of them. -/
def Digits (text : List Char) : Prop :=
  text ≠ [] ∧ ∀ character ∈ text, character.isDigit = true

/-- An integer without superfluous zeros at its start. -/
inductive IntegerPart : List Char → Prop where
  | zero : IntegerPart ['0']
  | positive {text : List Char} (digits : Digits text) (start : text.head? ≠ some '0') :
      IntegerPart text

/-- The fraction of a number, which may be missing. -/
inductive FractionPart : List Char → Prop where
  | absent : FractionPart []
  | present {digits : List Char} (some : Digits digits) : FractionPart ('.' :: digits)

/-- The exponent of a number, which may be missing. -/
inductive ExponentPart : List Char → Prop where
  | absent : ExponentPart []
  | present {mark : Char} {sign digits : List Char} (marked : mark = 'e' ∨ mark = 'E')
      (signed : sign = [] ∨ sign = ['+'] ∨ sign = ['-']) (some : Digits digits) :
      ExponentPart (mark :: sign ++ digits)

/-- The literal of a number. -/
inductive IsNumber : List Char → Prop where
  | intro {sign integer fraction exponent : List Char} (signed : sign = [] ∨ sign = ['-'])
      (whole : IntegerPart integer) (part : FractionPart fraction) (scaled : ExponentPart exponent) :
      IsNumber (sign ++ integer ++ fraction ++ exponent)

/-- No character at the start of the text can be taken for more of a number. -/
def EndsNumber (rest : List Char) : Prop :=
  ∀ first ∈ rest.head?, first.isDigit = false ∧ first ≠ '.' ∧ first ≠ 'e' ∧ first ≠ 'E'

/-! ## Digits -/

theorem readDigits_append {digits rest : List Char} (some : Digits digits)
    (ended : ∀ first ∈ rest.head?, first.isDigit = false) :
    readDigits (digits ++ rest) = .some (digits, rest) := by
  have taken : (digits ++ rest).takeWhile Char.isDigit = digits := by
    rw [List.takeWhile_append_of_pos some.2]
    cases rest with
    | nil => simp
    | cons first rest => simp [ended first rfl]
  have dropped : (digits ++ rest).dropWhile Char.isDigit = rest := by
    rw [List.dropWhile_append_of_pos some.2]
    cases rest with
    | nil => rfl
    | cons first rest => simp [ended first rfl]
  rw [readDigits, taken, dropped]
  cases digits with
  | nil => exact absurd rfl some.1
  | cons first digits => rfl

theorem digits_of_readDigits {text digits rest : List Char}
    (read : readDigits text = some (digits, rest)) : text = digits ++ rest ∧ Digits digits := by
  have whole : text.takeWhile Char.isDigit ++ text.dropWhile Char.isDigit = text :=
    List.takeWhile_append_dropWhile
  rw [readDigits] at read
  split at read
  · cases read
  · rename_i first some
    cases read
    exact ⟨whole.symm, some, fun character member => List.mem_takeWhile_imp member⟩

theorem Digits.exists_head {digits : List Char} (some : Digits digits) :
    ∃ first others, digits = first :: others ∧ first.isDigit = true := by
  obtain ⟨nonempty, all⟩ := some
  obtain ⟨first, others, rfl⟩ := List.exists_cons_of_ne_nil nonempty
  exact ⟨first, others, rfl, all first List.mem_cons_self⟩

/-! ## Parts -/

theorem readInteger_append {integer rest : List Char} (whole : IntegerPart integer)
    (ended : ∀ first ∈ rest.head?, first.isDigit = false) :
    readInteger (integer ++ rest) = some (integer, rest) := by
  cases whole with
  | zero =>
      cases rest with
      | nil => rfl
      | cons first rest => simp [readInteger, ended first rfl]
  | positive digits start =>
      obtain ⟨first, others, rfl, -⟩ := digits.exists_head
      have other : first ≠ '0' := by simpa using start
      rw [← readDigits_append digits ended, List.cons_append]
      unfold readInteger
      split
      · rename_i same
        exact absurd (List.cons.inj same).1 other
      · rfl

theorem integerPart_of_readInteger {text integer rest : List Char}
    (read : readInteger text = some (integer, rest)) :
    text = integer ++ rest ∧ IntegerPart integer := by
  unfold readInteger at read
  split at read
  · split at read
    · cases read
      exact ⟨rfl, .zero⟩
    · cases read
  · rename_i other
    obtain ⟨whole, digits⟩ := digits_of_readDigits read
    refine ⟨whole, .positive digits ?_⟩
    obtain ⟨first, others, rfl, -⟩ := digits.exists_head
    rintro same
    cases same
    exact other (others ++ rest) whole

theorem readFraction_append {fraction rest : List Char} (part : FractionPart fraction)
    (ended : ∀ first ∈ rest.head?, first.isDigit = false ∧ first ≠ '.') :
    readFraction (fraction ++ rest) = some (fraction, rest) := by
  cases part with
  | absent =>
      cases rest with
      | nil => rfl
      | cons first rest =>
          have other : first ≠ '.' := (ended first rfl).2
          simp [readFraction, other]
  | present digits =>
      rw [List.cons_append, readFraction, readDigits_append digits fun first start =>
        (ended first start).1]
      rfl

theorem fractionPart_of_readFraction {text fraction rest : List Char}
    (read : readFraction text = some (fraction, rest)) :
    text = fraction ++ rest ∧ FractionPart fraction := by
  unfold readFraction at read
  split at read
  · obtain ⟨⟨digits, behind⟩, counted, same⟩ := Option.map_eq_some_iff.mp read
    obtain ⟨rfl, some⟩ := digits_of_readDigits counted
    cases same
    exact ⟨rfl, .present some⟩
  · cases read
    exact ⟨rfl, .absent⟩

theorem readSign_append {sign digits : List Char}
    (signed : sign = [] ∨ sign = ['+'] ∨ sign = ['-']) (some : Digits digits) (rest : List Char) :
    readSign (sign ++ digits ++ rest) = (sign, digits ++ rest) := by
  obtain ⟨first, others, rfl, digit⟩ := some.exists_head
  rcases signed with rfl | rfl | rfl
  · unfold readSign
    split
    · rename_i same
      cases same
      cases digit
    · rename_i same
      cases same
      cases digit
    · rfl
  · rfl
  · rfl

theorem readSign_eq (text : List Char) :
    ∃ sign rest, readSign text = (sign, rest) ∧ text = sign ++ rest ∧
      (sign = [] ∨ sign = ['+'] ∨ sign = ['-']) := by
  unfold readSign
  split
  · exact ⟨_, _, rfl, rfl, .inr (.inl rfl)⟩
  · exact ⟨_, _, rfl, rfl, .inr (.inr rfl)⟩
  · exact ⟨_, _, rfl, rfl, .inl rfl⟩

theorem readExponent_append {exponent rest : List Char} (scaled : ExponentPart exponent)
    (ended : EndsNumber rest) : readExponent (exponent ++ rest) = some (exponent, rest) := by
  cases scaled with
  | absent =>
      cases rest with
      | nil => rfl
      | cons first rest =>
          obtain ⟨-, -, small, large⟩ := ended first rfl
          simp [readExponent, small, large]
  | @present mark sign digits marked signed some =>
      have counted : readDigits (digits ++ rest) = .some (digits, rest) :=
        readDigits_append some fun first start => (ended first start).1
      rw [List.cons_append, List.cons_append, readExponent, if_pos (by simpa using marked),
        readSign_append signed some]
      simp [counted]

theorem exponentPart_of_readExponent {text exponent rest : List Char}
    (read : readExponent text = some (exponent, rest)) :
    text = exponent ++ rest ∧ ExponentPart exponent := by
  cases text with
  | nil =>
      cases read
      exact ⟨rfl, .absent⟩
  | cons mark text =>
      rw [readExponent] at read
      split at read
      · rename_i marked
        obtain ⟨sign, unsigned, cut, rfl, signed⟩ := readSign_eq text
        rw [cut] at read
        obtain ⟨⟨digits, behind⟩, counted, same⟩ := Option.map_eq_some_iff.mp read
        obtain ⟨rfl, some⟩ := digits_of_readDigits counted
        cases same
        exact ⟨by simp, .present (by simpa using marked) signed some⟩
      · cases read
        exact ⟨rfl, .absent⟩

/-! ## Literals -/

theorem IntegerPart.exists_head {integer : List Char} (whole : IntegerPart integer) :
    ∃ first others, integer = first :: others ∧ first.isDigit = true := by
  cases whole with
  | zero => exact ⟨_, _, rfl, rfl⟩
  | positive digits start => exact digits.exists_head

theorem IsNumber.exists_head {literal : List Char} (number : IsNumber literal) :
    ∃ first others, literal = first :: others ∧ (first = '-' ∨ first.isDigit = true) := by
  obtain ⟨signed, whole, -, -⟩ := number
  rcases signed with rfl | rfl
  · obtain ⟨first, others, rfl, digit⟩ := whole.exists_head
    exact ⟨_, _, rfl, .inr digit⟩
  · exact ⟨_, _, rfl, .inl rfl⟩

/-- What follows a fraction, an exponent or more, does not go on with the fraction. -/
theorem ExponentPart.endsFraction {exponent rest : List Char} (scaled : ExponentPart exponent)
    (ended : EndsNumber rest) :
    ∀ first ∈ (exponent ++ rest).head?, first.isDigit = false ∧ first ≠ '.' := by
  cases scaled with
  | absent =>
      intro first start
      obtain ⟨digit, point, -, -⟩ := ended first start
      exact ⟨digit, point⟩
  | present marked signed some =>
      intro first start
      cases start
      rcases marked with rfl | rfl <;> decide

theorem FractionPart.endsInteger {fraction behind : List Char} (part : FractionPart fraction)
    (ended : ∀ first ∈ behind.head?, first.isDigit = false ∧ first ≠ '.') :
    ∀ first ∈ (fraction ++ behind).head?, first.isDigit = false := by
  cases part with
  | absent => exact fun first start => (ended first start).1
  | present some =>
      intro first start
      cases start
      decide

theorem readNumber_append {literal rest : List Char} (number : IsNumber literal)
    (ended : EndsNumber rest) : readNumber (literal ++ rest) = some (literal, rest) := by
  obtain ⟨signed, whole, part, scaled⟩ := number
  rename_i sign integer fraction exponent
  have third : readExponent (exponent ++ rest) = some (exponent, rest) :=
    readExponent_append scaled ended
  have second : readFraction (fraction ++ (exponent ++ rest)) = some (fraction, exponent ++ rest) :=
    readFraction_append part (scaled.endsFraction ended)
  have first : readInteger (integer ++ (fraction ++ (exponent ++ rest))) =
      some (integer, fraction ++ (exponent ++ rest)) :=
    readInteger_append whole (part.endsInteger (scaled.endsFraction ended))
  rcases signed with rfl | rfl
  · obtain ⟨start, others, rfl, digit⟩ := whole.exists_head
    have bare : ('-' : Char) ≠ start := by
      rintro rfl
      cases digit
    unfold readNumber
    simp only [List.nil_append, List.append_assoc, List.cons_append] at first ⊢
    split
    · rename_i same
      exact absurd (List.cons.inj same).1.symm bare
    · simp [first, second, third]
  · unfold readNumber
    simp [first, second, third]

theorem isNumber_of_readNumber {text literal rest : List Char}
    (read : readNumber text = some (literal, rest)) : text = literal ++ rest ∧ IsNumber literal := by
  unfold readNumber at read
  split at read
  rename_i sign unsigned cut
  have signed : (sign = [] ∨ sign = ['-']) ∧ text = sign ++ unsigned := by
    split at cut
    · cases cut
      exact ⟨.inr rfl, rfl⟩
    · cases cut
      exact ⟨.inl rfl, rfl⟩
  obtain ⟨signed, rfl⟩ := signed
  obtain ⟨⟨integer, behind⟩, first, read⟩ := Option.bind_eq_some_iff.mp read
  obtain ⟨⟨fraction, scale⟩, second, read⟩ := Option.bind_eq_some_iff.mp read
  obtain ⟨⟨exponent, beyond⟩, third, same⟩ := Option.bind_eq_some_iff.mp read
  cases same
  obtain ⟨rfl, whole⟩ := integerPart_of_readInteger first
  obtain ⟨rfl, part⟩ := fractionPart_of_readFraction second
  obtain ⟨rfl, scaled⟩ := exponentPart_of_readExponent third
  exact ⟨by simp, .intro signed whole part scaled⟩

end Json
end FragmentAssembly
