import Mathlib.Data.List.Forall2
import FragmentAssembly.Distinct

/-!
# The first items of their keys

Tables and compositions let the first item with a key win. Inserting items one by one, each unless
its key is present, leaves the items that win, and looking a key up among them is looking it up among
all items.
-/

namespace FragmentAssembly
namespace Distinct

/-- The items that no earlier item shares its key with. -/
def firstBy {α κ : Type} [DecidableEq κ] (key : α → κ) : List α → List α
  | [] => []
  | item :: others => item :: (firstBy key others).filter fun other => key other ≠ key item

section FirstBy

variable {α κ : Type} [DecidableEq κ] {key : α → κ}

theorem length_firstBy_le (items : List α) : (firstBy key items).length ≤ items.length := by
  induction items with
  | nil => exact Nat.le_refl 0
  | cons item others ih =>
      rw [firstBy, List.length_cons, List.length_cons]
      exact Nat.succ_le_succ (Nat.le_trans (List.length_filter_le _ _) ih)

theorem nodup_map_firstBy (items : List α) : ((firstBy key items).map key).Nodup := by
  induction items with
  | nil => exact List.nodup_nil
  | cons item others ih =>
      rw [firstBy, List.map_cons, List.nodup_cons]
      constructor
      · intro repeated
        obtain ⟨other, kept, same⟩ := List.mem_map.mp repeated
        simpa [same] using (List.mem_filter.mp kept).2
      · exact ih.sublist (List.filter_sublist.map key)

/-- Among the first items a key has the item that it has among all. -/
theorem find?_firstBy (items : List α) (wanted : κ) :
    (firstBy key items).find? (fun item => key item = wanted) =
      items.find? fun item => key item = wanted := by
  induction items with
  | nil => rfl
  | cons item others ih =>
      by_cases same : key item = wanted
      · simp [firstBy, same]
      · rw [firstBy, List.find?_cons_of_neg (by simpa using same),
          List.find?_cons_of_neg (by simpa using same), List.find?_filter, ← ih]
        congr 1
        funext other
        by_cases found : key other = wanted
        · simp [found, Ne.symm same]
        · simp [found]

theorem find?_of_mem_firstBy {items : List α} {item : α} (member : item ∈ firstBy key items) :
    items.find? (fun other => key other = key item) = some item := by
  induction items with
  | nil => simp [firstBy] at member
  | cons first others ih =>
      rw [firstBy, List.mem_cons, List.mem_filter] at member
      rcases member with rfl | ⟨behind, different⟩
      · simp
      · rw [List.find?_cons_of_neg (by simpa using Ne.symm (of_decide_eq_true different)), ih behind]

theorem find?_of_nodup {items : List α} (nodup : (items.map key).Nodup) {item : α}
    (member : item ∈ items) : items.find? (fun other => key other = key item) = some item := by
  induction items with
  | nil => cases member
  | cons first others ih =>
      rw [List.map_cons, List.nodup_cons] at nodup
      rcases List.mem_cons.mp member with rfl | behind
      · simp
      · have different : key first ≠ key item := by
          intro same
          exact nodup.1 (same ▸ List.mem_map_of_mem behind)
        rw [List.find?_cons_of_neg (by simpa using different)]
        exact ih nodup.2 behind

/-- Among items with different keys at most one has a given key. -/
theorem filter_of_nodup {items : List α} (nodup : (items.map key).Nodup) (wanted : κ) :
    items.filter (fun item => key item = wanted) =
      (items.find? fun item => key item = wanted).toList := by
  induction items with
  | nil => rfl
  | cons first others ih =>
      rw [List.map_cons, List.nodup_cons] at nodup
      by_cases same : key first = wanted
      · have none : others.filter (fun item => key item = wanted) = [] := by
          rw [List.filter_eq_nil_iff]
          intro other member found
          exact nodup.1 (List.mem_map.mpr ⟨other, member, (of_decide_eq_true found).trans same.symm⟩)
        rw [List.filter_cons_of_pos (by simpa using same),
          List.find?_cons_of_pos (by simpa using same), none]
        rfl
      · rw [List.filter_cons_of_neg (by simpa using same),
          List.find?_cons_of_neg (by simpa using same), ih nodup.2]

private theorem eraseDups_filter_ne (keys : List κ) (dropped : κ) :
    (keys.filter (· ≠ dropped)).eraseDups = keys.eraseDups.filter (· ≠ dropped) := by
  cases keys with
  | nil => rfl
  | cons first rest =>
      by_cases same : first = dropped
      · subst same
        rw [List.filter_cons_of_neg (by simp), List.eraseDups_cons,
          List.filter_cons_of_neg (by simp)]
        have kept : ∀ other ∈ (rest.filter fun other => !other == first).eraseDups,
            decide (other ≠ first) = true := by
          intro other member
          simpa using (List.mem_filter.mp (List.mem_eraseDups.mp member)).2
        rw [List.filter_eq_self.mpr kept]
        congr 2
        funext other
        by_cases equal : other = first <;> simp [equal]
      · have step := eraseDups_filter_ne (rest.filter fun other => !other == first) dropped
        rw [List.eraseDups_cons, List.filter_cons_of_pos (by simpa using same),
          List.filter_cons_of_pos (by simpa using same), List.eraseDups_cons, ← step,
          List.filter_filter, List.filter_filter]
        congr 3
        funext other
        exact Bool.and_comm _ _
termination_by keys.length
decreasing_by
  have bound := List.length_filter_le (fun other => !other == first) rest
  simp only [List.length_cons]
  omega

theorem map_firstBy (items : List α) : (firstBy key items).map key = (items.map key).eraseDups := by
  induction items with
  | nil => rfl
  | cons item others ih =>
      have filtered :
          ((firstBy key others).filter fun other => key other ≠ key item).map key =
            ((firstBy key others).map key).filter (· ≠ key item) := by
        rw [List.filter_map]
        rfl
      rw [firstBy, List.map_cons, filtered, ih, ← eraseDups_filter_ne, List.map_cons,
        List.eraseDups_cons]
      congr 3
      funext other
      by_cases same : other = key item <;> simp [same]

/-- What is inserted behind a partly built list are the first items of the keys that it lacks. -/
theorem foldl_insertBy (built items : List α) :
    items.foldl (insertBy key) built =
      built ++ (firstBy key items).filter fun item => key item ∉ built.map key := by
  induction items generalizing built with
  | nil => simp [firstBy]
  | cons item others ih =>
      rw [List.foldl_cons, firstBy, ih]
      by_cases known : key item ∈ built.map key
      · rw [insertBy, if_pos known, List.filter_cons_of_neg (by simpa using known), List.filter_filter]
        congr 2
        funext other
        by_cases same : key other = key item
        · simp [same, known]
        · simp [same]
      · rw [insertBy, if_neg known, List.filter_cons_of_pos (by simpa using known), List.filter_filter,
          List.append_assoc, List.singleton_append]
        congr 3
        funext other
        by_cases same : key other = key item
        · simp [same]
        · simp [same]

theorem foldl_insertBy_nil (items : List α) : items.foldl (insertBy key) [] = firstBy key items := by
  rw [foldl_insertBy, List.nil_append]
  exact List.filter_eq_self.mpr fun item _ => by simp

theorem firstBy_map {β : Type} (value : β → α) (items : List β) :
    firstBy key (items.map value) = (firstBy (fun item => key (value item)) items).map value := by
  induction items with
  | nil => rfl
  | cons item others ih =>
      rw [List.map_cons, firstBy, firstBy, List.map_cons, ih, List.filter_map]
      rfl

/-- The first items of related lists are related, if related items have the same key. -/
theorem forall₂_firstBy {R : α → α → Prop} (keys : ∀ item other, R item other → key item = key other)
    {items others : List α} (related : List.Forall₂ R items others) :
    List.Forall₂ R (firstBy key items) (firstBy key others) := by
  induction related with
  | nil => exact .nil
  | cons first _ ih =>
      refine .cons first (List.rel_filter ?_ ih)
      intro left right same
      simp only [keys left right same, keys _ _ first]

end FirstBy

/-! ## Insertion of several items -/

theorem insertAll_nil {α : Type} [DecidableEq α] (items : List α) :
    insertAll [] items = items.eraseDups := by
  have inserted : insertAll [] items = items.foldl (insertBy id) [] := by
    rw [insertAll]
    congr 1
    funext built item
    rw [insert, insertBy, List.map_id, id]
  have kept : (firstBy id items).map id = (items.map id).eraseDups := map_firstBy items
  rw [List.map_id, List.map_id] at kept
  rw [inserted, foldl_insertBy_nil, kept]

theorem insertAll_of_nodup {α : Type} [DecidableEq α] {front items : List α}
    (nodup : (front ++ items).Nodup) : insertAll front items = front ++ items := by
  induction items generalizing front with
  | nil => rw [List.append_nil, insertAll, List.foldl_nil]
  | cons item others ih =>
      have absent : item ∉ front := by
        intro member
        exact (List.nodup_append.mp nodup).2.2 item member item List.mem_cons_self rfl
      have behind : ((front ++ [item]) ++ others).Nodup := by simpa using nodup
      rw [insertAll, List.foldl_cons, insert, if_neg absent]
      simpa [insertAll] using ih behind

theorem insertAll_append {α : Type} [DecidableEq α] (items others more : List α) :
    insertAll items (others ++ more) = insertAll (insertAll items others) more :=
  List.foldl_append

/-- Inserting more items is inserting all items at once. -/
theorem insertAll_eq_eraseDups {α : Type} [DecidableEq α] {items : List α} (nodup : items.Nodup)
    (others : List α) : insertAll items others = (items ++ others).eraseDups := by
  have started : insertAll [] items = items := insertAll_of_nodup nodup
  calc
    insertAll items others = insertAll (insertAll [] items) others := by rw [started]
    _ = insertAll [] (items ++ others) := (insertAll_append [] items others).symm
    _ = (items ++ others).eraseDups := insertAll_nil _

/-- Items that do not repeat each other are inserted unless they are present before. -/
theorem insertAll_eq_append_filter {α : Type} [DecidableEq α] {items others : List α}
    (nodup : others.Nodup) : insertAll items others = items ++ others.filter (· ∉ items) := by
  induction others generalizing items with
  | nil => rw [List.filter_nil, List.append_nil, insertAll, List.foldl_nil]
  | cons other others ih =>
      obtain ⟨fresh, behind⟩ := List.nodup_cons.mp nodup
      rw [insertAll, List.foldl_cons, insert]
      split
      · rename_i present
        rw [List.filter_cons_of_neg (by simpa using present)]
        exact ih behind
      · rename_i absent
        have kept : others.filter (· ∉ items ++ [other]) = others.filter (· ∉ items) := by
          apply List.filter_congr
          intro item member
          have different : item ≠ other := fun same => fresh (same ▸ member)
          simp [different]
        have inserted : insertAll (items ++ [other]) others =
            items ++ [other] ++ others.filter (· ∉ items) := kept ▸ ih behind
        rw [List.filter_cons_of_pos (by simpa using absent)]
        rwa [List.append_assoc, List.singleton_append] at inserted

theorem insertAll_self {α : Type} [DecidableEq α] {items : List α} (nodup : items.Nodup) :
    insertAll items items = items := by
  have present : items.filter (· ∉ items) = [] := by simp
  rw [insertAll_eq_append_filter nodup, present, List.append_nil]

theorem insertAll_insert {α : Type} [DecidableEq α] (items others : List α) (item : α) :
    insertAll items (insert others item) = insert (insertAll items others) item := by
  by_cases present : item ∈ others
  · rw [insert, if_pos present, insert, if_pos (mem_insertAll.mpr (.inr present))]
  · rw [insert, if_neg present, insertAll_append]
    rfl

/-- Inserting several items is associative. -/
theorem insertAll_insertAll {α : Type} [DecidableEq α] (items middle others : List α) :
    insertAll items (insertAll middle others) = insertAll (insertAll items middle) others := by
  induction others generalizing middle with
  | nil => rfl
  | cons other others ih =>
      have inserted := ih (insert middle other)
      rwa [insertAll_insert] at inserted

end Distinct
end FragmentAssembly
