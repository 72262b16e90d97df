/-!
# Lists without repetitions

Sets that remember the order of insertion are lists without repetitions. Inserting an item that is
present leaves such a list as it is.
-/

namespace FragmentAssembly
namespace Distinct

/-- Insert an item at the end, unless it is present. -/
def insert {α : Type} [DecidableEq α] (items : List α) (item : α) : List α :=
  if item ∈ items then items else items ++ [item]

/-- Insert several items in order. -/
def insertAll {α : Type} [DecidableEq α] (items others : List α) : List α :=
  others.foldl insert items

/-- Insert an item at the end, unless one with its key is present. -/
def insertBy {α κ : Type} [DecidableEq κ] (key : α → κ) (items : List α) (item : α) : List α :=
  if key item ∈ items.map key then items else items ++ [item]

theorem nodup_insert {α : Type} [DecidableEq α] {items : List α} (nodup : items.Nodup) (item : α) :
    (insert items item).Nodup := by
  unfold insert
  split
  · exact nodup
  · rename_i absent
    rw [List.nodup_append]
    refine ⟨nodup, by simp, ?_⟩
    intro left member right last
    rw [List.mem_singleton] at last
    intro same
    exact absent (last ▸ same ▸ member)

theorem nodup_insertAll {α : Type} [DecidableEq α] {items : List α} (nodup : items.Nodup)
    (others : List α) : (insertAll items others).Nodup := by
  induction others generalizing items with
  | nil => exact nodup
  | cons other others ih => exact ih (nodup_insert nodup other)

@[simp]
theorem mem_insert {α : Type} [DecidableEq α] {items : List α} {item candidate : α} :
    candidate ∈ insert items item ↔ candidate ∈ items ∨ candidate = item := by
  unfold insert
  split
  · rename_i present
    constructor
    · exact Or.inl
    · rintro (member | rfl)
      · exact member
      · exact present
  · simp

@[simp]
theorem mem_insertAll {α : Type} [DecidableEq α] {items others : List α} {candidate : α} :
    candidate ∈ insertAll items others ↔ candidate ∈ items ∨ candidate ∈ others := by
  induction others generalizing items with
  | nil => simp [insertAll]
  | cons other others ih =>
      have step := @ih (insert items other)
      rw [mem_insert] at step
      simpa [insertAll, or_assoc] using step

end Distinct
end FragmentAssembly
