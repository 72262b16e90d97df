import FragmentAssembly.Proofs.Registrations.Merging
import FragmentAssembly.Proofs.Registrations.Reading

/-!
# Joined registration texts

Two registration texts are joined by a line feed. If no logical line is left open at the end of the first
text, the logical lines of the joined text are those of the first text, and behind them those of the second
one, further down by the lines of the first. So the joined text reads as both texts one after the other: it
fails with the first error of the two, and otherwise it amounts to both registrations merged.
-/

namespace FragmentAssembly
namespace Registrations

/-! ## Lines behind other lines -/

/-- A logical line, further down by some physical lines. -/
def LogicalLine.shift (line : LogicalLine) (distance : Nat) : LogicalLine :=
  { line with number := line.number + distance }

/-- A malformed line, further down by some physical lines. -/
def Rejection.shift (rejection : Rejection) (distance : Nat) : Rejection :=
  { rejection with line := rejection.line + distance }

/-- Physical lines end inside of a block: its last line so far goes on in the next one. -/
inductive LeftOpen : List (List Char) → Prop where
  /-- The lines are a block that is cut off. -/
  | dangling {first : List Char} {parts : List (List Char)} (opens : ¬Skipped (first ++ ['\\'])) :
      LeftOpen (continuedLines (first :: parts))
  /-- A blank line or a comment stands in front. -/
  | skip {line : List Char} {rest : List (List Char)} (skipped : Skipped line)
      (others : LeftOpen rest) : LeftOpen (line :: rest)
  /-- A whole block stands in front. -/
  | block {parts : List (List Char)} {last : List Char} {rest : List (List Char)}
      (opens : ∀ first ∈ (continuedLines parts ++ [last]).head?, ¬Skipped first)
      (ends : ¬['\\'] <:+ last) (others : LeftOpen rest) :
      LeftOpen (continuedLines parts ++ last :: rest)

theorem LeftOpen.exists_getLast? {lines : List (List Char)} (leftOpen : LeftOpen lines) :
    ∃ line, lines.getLast? = some line ∧ ['\\'] <:+ line := by
  induction leftOpen with
  | @dangling first parts opens =>
      have some : (first :: parts).getLast?.isSome = true := by simp
      obtain ⟨part, last⟩ := Option.isSome_iff_exists.mp some
      refine ⟨part ++ ['\\'], ?_, List.suffix_append part ['\\']⟩
      rw [continuedLines, List.getLast?_map, last, Option.map_some]
  | skip skipped others ih =>
      obtain ⟨line, last, ends⟩ := ih
      exact ⟨line, by simp [List.getLast?_cons, last], ends⟩
  | block opens stops others ih =>
      obtain ⟨line, last, ends⟩ := ih
      exact ⟨line, by simp [List.getLast?_cons, List.getLast?_append, last], ends⟩

/-- Where no block is left open, other lines make up logical lines of their own. -/
theorem Grouped.append {number : Nat} {physical others : List (List Char)}
    {lines behind : List LogicalLine} (grouped : Grouped number physical lines)
    (closed : ¬LeftOpen physical) (follow : Grouped (number + physical.length) others behind) :
    Grouped number (physical ++ others) (lines ++ behind) := by
  induction grouped with
  | nil => simpa using follow
  | @skip number line rest lines skipped _ ih =>
      refine .skip skipped (ih (fun leftOpen => closed (.skip skipped leftOpen)) ?_)
      rwa [List.length_cons, ← Nat.add_assoc, Nat.add_right_comm] at follow
  | @block number parts last rest lines opens ends _ ih =>
      have inner : Grouped (number + parts.length + 1 + rest.length) others behind := by
        have length : number + (continuedLines parts ++ last :: rest).length =
            number + parts.length + 1 + rest.length := by
          simp only [continuedLines, List.length_append, List.length_map, List.length_cons]
          omega
        rwa [length] at follow
      have rest := ih (fun leftOpen => closed (.block opens ends leftOpen)) inner
      rw [List.append_assoc, List.cons_append, List.cons_append]
      exact .block opens ends rest
  | @dangling number first parts opens => exact absurd (.dangling opens) closed

/-- Lines further down make up the same logical lines, further down. -/
theorem Grouped.shift {number : Nat} {physical : List (List Char)} {lines : List LogicalLine}
    (grouped : Grouped number physical lines) (distance : Nat) :
    Grouped (number + distance) physical (lines.map (·.shift distance)) := by
  induction grouped with
  | nil => exact .nil
  | skip skipped _ ih =>
      rw [Nat.add_right_comm] at ih
      exact .skip skipped ih
  | @block number parts last rest lines opens ends _ ih =>
      have length : number + parts.length + 1 + distance = number + distance + parts.length + 1 := by
        omega
      rw [length] at ih
      exact .block opens ends ih
  | dangling opens => exact .dangling opens

theorem logicalLines_join {first : List Char} (closed : ¬LeftOpen (physicalLines first))
    (second : List Char) :
    logicalLines (first ++ '\n' :: second) =
      logicalLines first ++ (logicalLines second).map (·.shift (1 + first.count '\n')) := by
  have front := grouped_group 1 (physicalLines first)
  have back := (grouped_group 1 (physicalLines second)).shift (1 + first.count '\n')
  rw [← length_physicalLines] at back
  rw [logicalLines_eq, logicalLines_eq, logicalLines_eq, physicalLines_join, ← length_physicalLines]
  exact group_of_grouped (front.append closed back)

/-! ## Reading lines behind other lines -/

theorem declareLines_append (registrations : Registrations) (front back : List LogicalLine) :
    declareLines registrations (front ++ back) =
      (declareLines registrations front).bind fun declared => declareLines declared back := by
  induction front generalizing registrations with
  | nil => rfl
  | cons line others ih =>
      rw [List.cons_append, declareLines, declareLines]
      cases declaration line.content with
      | error malformation => rfl
      | ok declared => exact ih (registrations.registerAll declared.contract declared.implementations)

/-- Lines further down are read alike, apart from the number in the error. -/
theorem declareLines_shift (registrations : Registrations) (lines : List LogicalLine)
    (distance : Nat) :
    declareLines registrations (lines.map (·.shift distance)) =
      (declareLines registrations lines).mapError (·.shift distance) := by
  induction lines generalizing registrations with
  | nil => rfl
  | cons line others ih =>
      rw [List.map_cons, declareLines, declareLines]
      have same : (line.shift distance).content = line.content := rfl
      rw [same]
      cases declaration line.content with
      | error malformation => rfl
      | ok declared => exact ih (registrations.registerAll declared.contract declared.implementations)

theorem declareLines_eq_merge (registrations : Registrations) (lines : List LogicalLine) :
    declareLines registrations lines = (declareLines empty lines).map registrations.merge := by
  rcases declared_or_firstFaulty lines with ⟨declared, read⟩ | ⟨rejection, malformed⟩
  · rw [declareLines_of_declared read, declareLines_of_declared read,
      declareAll_eq_merge registrations read.implementations_ne_nil]
    rfl
  · rw [declareLines_of_firstFaulty malformed, declareLines_of_firstFaulty malformed]
    rfl

theorem parse_join {first : String} (closed : ¬LeftOpen (physicalLines first.toList))
    (second : String) :
    parse (first ++ "\n" ++ second) =
      (parse first).bind fun left =>
        ((parse second).mapError (·.shift (1 + first.toList.count '\n'))).map left.merge := by
  have joined : (first ++ "\n" ++ second).toList = first.toList ++ '\n' :: second.toList := by simp
  rw [parse, joined, logicalLines_join closed, declareLines_append]
  congr 1
  funext left
  rw [declareLines_shift, declareLines_eq_merge left, parse]
  cases declareLines empty (logicalLines second.toList) with
  | error rejection => rfl
  | ok right => rfl

/-- Reading is compatible with merging, as long as no logical line is left open at the end of the first
text. An error of the first text is the error of the joined one. Otherwise an error of the second text is,
with its line counted from the start of the first. Texts without errors amount to the registrations of both,
merged, with contracts and implementations in the order of merging. -/
theorem parse_join_merges {first : String} (closed : ¬LeftOpen (physicalLines first.toList))
    (second : String) :
    (∀ rejection, parse first = .error rejection →
        parse (first ++ "\n" ++ second) = .error rejection) ∧
      (∀ left rejection, parse first = .ok left → parse second = .error rejection →
        parse (first ++ "\n" ++ second) =
          .error ⟨rejection.line + 1 + first.toList.count '\n', rejection.malformation⟩) ∧
      ∀ left right, parse first = .ok left → parse second = .ok right →
        parse (first ++ "\n" ++ second) = .ok (left.merge right) := by
  rw [parse_join closed]
  refine ⟨?_, ?_, ?_⟩
  · intro rejection failure
    rw [failure]
    rfl
  · intro left rejection success failure
    rw [success, failure, Nat.add_assoc]
    rfl
  · intro left right success follow
    rw [success, follow]
    rfl

theorem parse_join_merges_continued :
    ¬LeftOpen (physicalLines "a.B=c.D,\\\n c.E".toList) ∧
      parse ("a.B=c.D,\\\n c.E" ++ "\n" ++ "x.Y=c.D\na.B=c.E,c.F") =
        .ok ((empty.registerAll "a.B" ["c.D", "c.E"]).merge
          ((empty.registerAll "x.Y" ["c.D"]).registerAll "a.B" ["c.E", "c.F"])) ∧
      parse ("a.B=c.D,\\\n c.E" ++ "\n" ++ "# more\nx.Y") = .error ⟨4, .noEquals "x.Y"⟩ := by
  have closed : ¬LeftOpen (physicalLines "a.B=c.D,\\\n c.E".toList) := by
    intro leftOpen
    obtain ⟨line, last, ends⟩ := leftOpen.exists_getLast?
    have found : (physicalLines "a.B=c.D,\\\n c.E".toList).getLast? = some "c.E".toList := by decide
    rw [found] at last
    cases last
    exact absurd ends (by decide)
  have success : parse "a.B=c.D,\\\n c.E" = .ok (empty.registerAll "a.B" ["c.D", "c.E"]) := rfl
  refine ⟨closed, ?_, ?_⟩
  · exact (parse_join_merges closed "x.Y=c.D\na.B=c.E,c.F").2.2 _ _ success rfl
  · exact (parse_join_merges closed "# more\nx.Y").2.1 _ _ success rfl

end Registrations
end FragmentAssembly
