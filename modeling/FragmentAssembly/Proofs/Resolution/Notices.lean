import FragmentAssembly.Resolution

/-!
# What resolution reports

Searching for implementations and placing what was found is reported. None of the notices is about a
factory, because no instance is made meanwhile.
-/

namespace FragmentAssembly

variable {σ : Type}

/-- Whether a factory is about to run. -/
def Notice.isMaterializing : Notice → Bool
  | .materializing _ _ => true
  | _ => false

namespace Composition

theorem isMaterializing_arrivalNotice? {fragment : Fragment σ} {number : Nat}
    {slots : List (Fragment σ)} {notice : Notice}
    (arrives : arrivalNotice? fragment number slots = some notice) : notice.isMaterializing = false := by
  induction slots generalizing number with
  | nil => cases arrives
  | cons slot others ih =>
      rw [arrivalNotice?] at arrives
      split at arrives
      · split at arrives
        · cases arrives
        · split at arrives
          · cases arrives
            rfl
          · cases arrives
            rfl
      · exact ih arrives

theorem isMaterializing_appendNotices {composition : Composition σ} {fragments : List (Fragment σ)}
    {notice : Notice} (member : notice ∈ composition.appendNotices fragments) :
    notice.isMaterializing = false := by
  induction fragments generalizing composition with
  | nil => cases member
  | cons fragment others ih =>
      rw [appendNotices, List.mem_append] at member
      rcases member with arrives | behind
      · exact isMaterializing_arrivalNotice? (Option.mem_toList.mp arrives)
      · exact ih behind

end Composition

theorem Resolution.isMaterializing_notices (resolution : Resolution σ) (contract : String) :
    ∀ notice ∈ resolution.notices contract, notice.isMaterializing = false := by
  cases resolution with
  | scanned candidate => simp [notices, Notice.isMaterializing]
  | identified candidate identity count => simp [notices, Notice.isMaterializing]
  | ambiguous identity typeNames => simp [notices, Notice.isMaterializing]
  | registered candidate unknown =>
      rw [notices, List.forall_mem_append]
      simp [Notice.isMaterializing]
  | unresolved unknown =>
      rw [notices, List.forall_mem_append]
      simp [Notice.isMaterializing]

theorem Resolver.isMaterializing_composeNotices {resolver : Resolver σ} {interface : Interface}
    {scope : SearchScope} {base : Fragment σ} {notice : Notice}
    (member : notice ∈ resolver.composeNotices interface scope base) :
    notice.isMaterializing = false := by
  rw [composeNotices, bindNotices, List.mem_append, List.mem_append, List.mem_flatMap] at member
  rcases member with (⟨contract, -, searched⟩ | filled) | based
  · exact Resolution.isMaterializing_notices _ _ notice searched
  · exact Composition.isMaterializing_appendNotices filled
  · exact Composition.isMaterializing_appendNotices based

end FragmentAssembly
