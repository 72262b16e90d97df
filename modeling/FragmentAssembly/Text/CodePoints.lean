/-!
# Sets of code points

Character classes are given by tables. A table is a list of intervals, or of runs that take every
code point or every second one.
-/

namespace FragmentAssembly
namespace Text

/-- Whether a character lies in one of the intervals; both ends belong to an interval. -/
def inIntervals (intervals : List (Nat × Nat)) (character : Char) : Bool :=
  intervals.any fun (first, last) => first ≤ character.toNat && character.toNat ≤ last

/-- The code points from `first` to `last` in steps of `step`. -/
structure Run where
  /-- First code point of the run. -/
  first : Nat
  /-- Last code point of the run. -/
  last : Nat
  /-- Distance between neighbours. -/
  step : Nat

/-- Whether a code point is one of a run. -/
def Run.contains (run : Run) (codePoint : Nat) : Bool :=
  run.first ≤ codePoint && codePoint ≤ run.last && (codePoint - run.first) % run.step == 0

end Text
end FragmentAssembly
