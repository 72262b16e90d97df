import FragmentAssembly.Program

/-!
# Journals

A journal is what an observer writes down while a run goes on: each question for the invocation in
progress with its answer, each factory and each implementation that runs, and each call with the answers
just before and just after it. What happens during an entry is a journal of its own, so that the calls
around a question are the entries around it. The calls of a run are numbered in the order in which they
begin.
-/

namespace FragmentAssembly

/-- The events of a run, in order. -/
inductive Journal where
  /-- Nothing more happens. -/
  | done
  /-- The invocation in progress is asked for. -/
  | read (answer : Except Error Invocation) (rest : Journal)
  /-- A factory runs. -/
  | make (typeName : String) (inside rest : Journal)
  /-- An implementation runs. -/
  | serve (typeName : String) (method : Signature) (arguments : List Json) (inside rest : Journal)
  /-- A call reaches no fragment. -/
  | refuse (request : Call) (before after : Except Error Invocation) (rest : Journal)
  /-- A call reaches a fragment. -/
  | call (request : Call) (before : Except Error Invocation) (opened : Option Invocation)
      (inside : Journal) (after : Except Error Invocation) (rest : Journal)

namespace Journal

/-- What happens first, and what happens then. -/
def append (journal later : Journal) : Journal :=
  match journal with
  | .done => later
  | .read answer rest => .read answer (rest.append later)
  | .make typeName inside rest => .make typeName inside (rest.append later)
  | .serve typeName method arguments inside rest =>
      .serve typeName method arguments inside (rest.append later)
  | .refuse request before after rest => .refuse request before after (rest.append later)
  | .call request before opened inside after rest =>
      .call request before opened inside after (rest.append later)

/-- The numbers of the invocations that calls open, in the order of the calls. -/
def ids : Journal → List Nat
  | .done => []
  | .read _ rest => rest.ids
  | .make _ inside rest => inside.ids ++ rest.ids
  | .serve _ _ _ inside rest => inside.ids ++ rest.ids
  | .refuse _ _ _ rest => rest.ids
  | .call _ _ opened inside _ rest => (opened.map Invocation.id).toList ++ (inside.ids ++ rest.ids)

@[simp]
theorem ids_append (journal later : Journal) :
    (journal.append later).ids = journal.ids ++ later.ids := by
  induction journal with
  | done => rfl
  | read answer rest ih => exact ih
  | make typeName inside rest _ ih => rw [append, ids, ids, ih, List.append_assoc]
  | serve typeName method arguments inside rest _ ih => rw [append, ids, ids, ih, List.append_assoc]
  | refuse request before after rest ih => exact ih
  | call request before opened inside after rest _ ih =>
      rw [append, ids, ids, ih]
      simp only [List.append_assoc]

/-- Calls are numbered in order, with numbers that were free. -/
structure Numbered (low high : Nat) (journal : Journal) : Prop where
  le : low ≤ high
  increasing : journal.ids.Pairwise (· < ·)
  bounded : ∀ id ∈ journal.ids, low ≤ id ∧ id < high

theorem numbered_of_ids_eq_nil {low high : Nat} {journal : Journal} (le : low ≤ high)
    (none : journal.ids = []) : journal.Numbered low high := by
  refine ⟨le, ?_, ?_⟩
  · rw [none]
    exact .nil
  · simp [none]

theorem Numbered.of_ids_eq {low high : Nat} {journal other : Journal}
    (numbered : journal.Numbered low high) (same : other.ids = journal.ids) :
    other.Numbered low high := by
  obtain ⟨le, increasing, bounded⟩ := numbered
  rw [← same] at increasing bounded
  exact ⟨le, increasing, bounded⟩

theorem Numbered.append {low middle high : Nat} {journal later : Journal}
    (first : journal.Numbered low middle) (second : later.Numbered middle high) :
    (journal.append later).Numbered low high := by
  refine ⟨Nat.le_trans first.le second.le, ?_, ?_⟩
  · rw [ids_append, List.pairwise_append]
    refine ⟨first.increasing, second.increasing, ?_⟩
    intro early member late other
    have below := (first.bounded early member).2
    have above := (second.bounded late other).1
    omega
  · intro id member
    rw [ids_append, List.mem_append] at member
    have grows := first.le
    have continues := second.le
    rcases member with member | member
    · have bounds := first.bounded id member
      omega
    · have bounds := second.bounded id member
      omega

theorem Numbered.of_succ {low high : Nat} {journal : Journal}
    (numbered : journal.Numbered (low + 1) high) : journal.Numbered low high := by
  obtain ⟨le, increasing, bounded⟩ := numbered
  refine ⟨by omega, increasing, ?_⟩
  intro id member
  have bounds := bounded id member
  omega

/-- A call takes the first free number before the calls that it nests. -/
theorem Numbered.cons {low high : Nat} {journal other : Journal}
    (numbered : journal.Numbered (low + 1) high) (more : other.ids = low :: journal.ids) :
    other.Numbered low high := by
  obtain ⟨le, increasing, bounded⟩ := numbered
  refine ⟨by omega, ?_, ?_⟩
  · rw [more, List.pairwise_cons]
    exact ⟨fun id member => (bounded id member).1, increasing⟩
  · intro id member
    rw [more, List.mem_cons] at member
    rcases member with rfl | member
    · omega
    · have bounds := bounded id member
      omega

end Journal
end FragmentAssembly
