import FragmentAssembly.Invocation

/-!
# Guards dropped in any order

A guard puts back the value that it found in the slot of the thread, whatever happened in between. If guards
are dropped in the reverse order of their installation, the slot only ever shows the value of a guard that is
still held, and in the end the value from before all of them. In every other order the value of a guard comes
back after the guard was dropped.
-/

namespace FragmentAssembly

/-- What a thread does with guards. -/
inductive Handling where
  /-- Install a value in the slot, and hold the guard. -/
  | install
  /-- Drop a guard: the one behind this many younger ones that are held as well. -/
  | drop (younger : Nat)
  deriving DecidableEq

namespace Handling

/-- All guards are dropped, those that are installed and this many that are held from before. -/
inductive DropsAll : Nat → List Handling → Prop where
  | nil : DropsAll 0 []
  | install {held : Nat} {rest : List Handling} (behind : DropsAll (held + 1) rest) :
      DropsAll held (.install :: rest)
  | drop {held younger : Nat} {rest : List Handling} (among : younger ≤ held)
      (behind : DropsAll held rest) : DropsAll (held + 1) (.drop younger :: rest)

/-- No guard is dropped while a younger one is held. -/
def LastInFirstOut (schedule : List Handling) : Prop :=
  ∀ handling ∈ schedule, handling = .install ∨ handling = .drop 0

instance : DecidablePred LastInFirstOut := fun schedule =>
  inferInstanceAs (Decidable (∀ handling ∈ schedule, handling = .install ∨ handling = .drop 0))

end Handling

/-- A thread that holds guards. -/
structure Holding where
  /-- The stores of the invocation in progress. -/
  surroundings : Surroundings
  /-- The guards that are held, the youngest one first, by number. -/
  held : List (Nat × Guard)
  /-- The number of the next guard. -/
  next : Nat
  /-- Guards are numbered in the order of their installation. -/
  ordered : (next :: held.map Prod.fst).Pairwise (· > ·)

namespace Holding

/-- A thread without guards. -/
def start (surroundings : Surroundings) : Holding where
  surroundings := surroundings
  held := []
  next := 0
  ordered := by simp

/-- The thread after a value is installed. -/
def install (holding : Holding) (slot : ThreadSlot) : Holding where
  surroundings := (holding.surroundings.install slot).2
  held := (holding.next, (holding.surroundings.install slot).1) :: holding.held
  next := holding.next + 1
  ordered := by
    refine List.pairwise_cons.mpr ⟨?_, holding.ordered⟩
    intro number listed
    rcases List.mem_cons.mp listed with rfl | older
    · exact Nat.lt_succ_self _
    · exact Nat.lt_succ_of_lt ((List.pairwise_cons.mp holding.ordered).1 number older)

/-- The thread after one of its guards is dropped. -/
def drop? (holding : Holding) (younger : Nat) : Option Holding :=
  holding.held[younger]?.map fun entry =>
    { surroundings := holding.surroundings.release entry.2
      held := holding.held.eraseIdx younger
      next := holding.next
      ordered := holding.ordered.sublist
        (((List.eraseIdx_sublist holding.held younger).map Prod.fst).cons_cons holding.next) }

/-- Install the value of the next number, or drop a guard. -/
def step (slots : Nat → ThreadSlot) (holding : Holding) : Handling → Option Holding
  | .install => some (holding.install (slots holding.next))
  | .drop younger => holding.drop? younger

/-- Install and drop guards in order. -/
def run (slots : Nat → ThreadSlot) : List Handling → Holding → Option Holding
  | [], holding => some holding
  | handling :: rest, holding => (holding.step slots handling).bind (run slots rest)

/-- What the slot shows was there from the start, or it is the value of a guard that is held. -/
def Shows (slots : Nat → ThreadSlot) (outer : Surroundings) (holding : Holding) : Prop :=
  holding.surroundings.thread = outer.thread ∨
    ∃ entry ∈ holding.held, holding.surroundings.thread = slots entry.1

/-- No value outlives its guard. At each moment the slot shows what was there from the start or the value of
a guard that is held. When all guards are dropped, the surroundings are those from the start. -/
structure NoneOutlives (slots : Nat → ThreadSlot) (outer : Surroundings) (holding : Holding)
    (schedule : List Handling) : Prop where
  shows : ∀ front, front <+: schedule →
    ∃ now, run slots front holding = some now ∧ now.Shows slots outer
  restores : ∃ last, run slots schedule holding = some last ∧ last.held = [] ∧
    last.surroundings = outer

variable {slots : Nat → ThreadSlot} {outer : Surroundings} {holding after : Holding}

@[simp] theorem length_held_install (slot : ThreadSlot) :
    (holding.install slot).held.length = holding.held.length + 1 :=
  rfl

theorem exists_drop? {younger : Nat} (among : younger < holding.held.length) :
    ∃ after, holding.drop? younger = some after ∧ after.held.length + 1 = holding.held.length := by
  refine ⟨_, congrArg (Option.map _) (List.getElem?_eq_getElem among), ?_⟩
  have fewer := List.length_eraseIdx_of_lt among
  change (holding.held.eraseIdx younger).length + 1 = holding.held.length
  omega

theorem run_cons {handling : Handling} (stepped : holding.step slots handling = some after)
    (rest : List Handling) : run slots (handling :: rest) holding = run slots rest after := by
  rw [run, stepped, Option.bind_some]

theorem noneOutlives_cons_iff {handling : Handling} {rest : List Handling}
    (stepped : holding.step slots handling = some after) :
    NoneOutlives slots outer holding (handling :: rest) ↔
      holding.Shows slots outer ∧ NoneOutlives slots outer after rest := by
  constructor
  · rintro ⟨shows, restores⟩
    refine ⟨?_, ?_, ?_⟩
    · obtain ⟨now, same, shown⟩ := shows [] (List.nil_prefix)
      cases same
      exact shown
    · intro front part
      have moment := shows (handling :: front) (List.cons_prefix_cons.mpr ⟨rfl, part⟩)
      rwa [run_cons stepped] at moment
    · rwa [run_cons stepped] at restores
  · rintro ⟨shown, shows, restores⟩
    refine ⟨?_, ?_⟩
    · intro front begins
      rcases List.prefix_cons_iff.mp begins with rfl | ⟨behind, rfl, part⟩
      · exact ⟨holding, rfl, shown⟩
      · rw [run_cons stepped]
        exact shows behind part
    · rwa [run_cons stepped]

theorem noneOutlives_install_iff {rest : List Handling} :
    NoneOutlives slots outer holding (.install :: rest) ↔
      holding.Shows slots outer ∧
        NoneOutlives slots outer (holding.install (slots holding.next)) rest :=
  noneOutlives_cons_iff rfl

theorem noneOutlives_drop_iff {younger : Nat} {rest : List Handling}
    (dropped : holding.drop? younger = some after) :
    NoneOutlives slots outer holding (.drop younger :: rest) ↔
      holding.Shows slots outer ∧ NoneOutlives slots outer after rest :=
  noneOutlives_cons_iff dropped

/-! ## Piles of guards -/

/-- Each guard found the value of the one below it, and the lowest one what was there from the start. This
is the value in the slot. -/
inductive Piled (slots : Nat → ThreadSlot) (bottom : ThreadSlot) :
    List (Nat × Guard) → ThreadSlot → Prop where
  | nil : Piled slots bottom [] bottom
  | cons {held : List (Nat × Guard)} {slot : ThreadSlot} (below : Piled slots bottom held slot)
      (number : Nat) : Piled slots bottom ((number, ⟨slot⟩) :: held) (slots number)

/-- The guards that are held are a pile, and the slot shows the value of the youngest one. -/
structure OnTop (slots : Nat → ThreadSlot) (outer : Surroundings) (holding : Holding) : Prop where
  piled : Piled slots outer.thread holding.held holding.surroundings.thread
  task : holding.surroundings.task = outer.task

theorem OnTop.shows (onTop : OnTop slots outer holding) : holding.Shows slots outer := by
  obtain ⟨⟨shown, scope⟩, held, next, ordered⟩ := holding
  obtain ⟨piled, -⟩ := onTop
  obtain _ | ⟨below, number⟩ := piled
  · exact .inl rfl
  · exact .inr ⟨_, List.mem_cons_self, rfl⟩

theorem OnTop.install (onTop : OnTop slots outer holding) :
    OnTop slots outer (holding.install (slots holding.next)) :=
  ⟨.cons onTop.piled holding.next, onTop.task⟩

theorem OnTop.drop? (onTop : OnTop slots outer holding) (dropped : holding.drop? 0 = some after) :
    OnTop slots outer after := by
  obtain ⟨⟨shown, scope⟩, held, next, ordered⟩ := holding
  obtain ⟨piled, task⟩ := onTop
  obtain _ | ⟨below, number⟩ := piled
  · cases dropped
  · cases dropped
    exact ⟨below, task⟩

/-- In a pile the guard above another one found its value. -/
theorem Piled.exists_above {bottom shown : ThreadSlot} {held : List (Nat × Guard)}
    (piled : Piled slots bottom held shown) {younger number : Nat} {guard : Guard}
    (found : held[younger + 1]? = some (number, guard)) :
    ∃ entry ∈ held.eraseIdx (younger + 1), entry.2.previous = slots number := by
  induction younger generalizing held shown with
  | zero =>
      obtain _ | ⟨_ | ⟨below, older⟩, top⟩ := piled
      · cases found
      · cases found
      · cases found
        exact ⟨_, List.mem_cons_self, rfl⟩
  | succ younger ih =>
      obtain _ | ⟨below, top⟩ := piled
      · cases found
      · obtain ⟨entry, member, same⟩ := ih below found
        exact ⟨entry, List.mem_cons_of_mem _ member, same⟩

theorem OnTop.noneOutlives_nil (onTop : OnTop slots outer holding) (none : holding.held = []) :
    NoneOutlives slots outer holding [] := by
  refine ⟨?_, holding, rfl, none, ?_⟩
  · intro front begins
    rw [List.prefix_nil.mp begins]
    exact ⟨holding, rfl, onTop.shows⟩
  · obtain ⟨⟨shown, scope⟩, held, next, ordered⟩ := holding
    obtain ⟨piled, task⟩ := onTop
    obtain _ | ⟨below, number⟩ := piled
    · exact congrArg (Surroundings.mk outer.thread) task
    · cases none

/-- Guards that are dropped in the reverse order of their installation stay piled. -/
theorem noneOutlives_of_lastInFirstOut {schedule : List Handling} {count : Nat}
    (all : Handling.DropsAll count schedule) (counted : holding.held.length = count)
    (onTop : OnTop slots outer holding) (reversed : Handling.LastInFirstOut schedule) :
    NoneOutlives slots outer holding schedule := by
  induction all generalizing holding with
  | nil => exact onTop.noneOutlives_nil (List.length_eq_zero_iff.mp counted)
  | @install count rest behind ih =>
      have more : (holding.install (slots holding.next)).held.length = count + 1 := by
        rw [length_held_install, counted]
      rw [noneOutlives_install_iff]
      exact ⟨onTop.shows, ih more onTop.install (List.forall_mem_cons.mp reversed).2⟩
  | @drop count younger rest among behind ih =>
      obtain ⟨youngest, others⟩ := List.forall_mem_cons.mp reversed
      have first : younger = 0 := by
        rcases youngest with other | same
        · cases other
        · cases same
          rfl
      subst first
      obtain ⟨after, dropped, fewer⟩ := @exists_drop? holding 0 (by omega)
      rw [noneOutlives_drop_iff dropped]
      exact ⟨onTop.shows, ih (by omega) (onTop.drop? dropped) others⟩

/-! ## Values that come back -/

/-- A guard that is held found the value of a guard that was dropped. -/
structure Stranded (slots : Nat → ThreadSlot) (holding : Holding) (number : Nat) : Prop where
  made : number < holding.next
  dropped : ∀ entry ∈ holding.held, entry.1 ≠ number
  found : ∃ entry ∈ holding.held, entry.2.previous = slots number

theorem forall_ne_of_drop? {younger : Nat} {entry : Nat × Guard}
    (found : holding.held[younger]? = some entry) :
    ∀ other ∈ holding.held.eraseIdx younger, other.1 ≠ entry.1 := by
  intro other kept same
  obtain ⟨index, different, here⟩ := List.mem_eraseIdx_iff_getElem?.mp kept
  have numbers : (holding.held.map Prod.fst).Nodup :=
    (List.pairwise_cons.mp holding.ordered).2.imp Nat.ne_of_gt
  have bounded : index < (holding.held.map Prod.fst).length := by
    rw [List.length_map]
    exact (List.getElem?_eq_some_iff.mp here).1
  apply different
  apply (List.getElem?_inj bounded numbers).mp
  rw [List.getElem?_map, List.getElem?_map, here, found]
  exact congrArg some same

/-- Where a guard of a pile is dropped before a younger one, the one above it holds on to its value. -/
theorem OnTop.exists_stranded {younger : Nat} (onTop : OnTop slots outer holding)
    (dropped : holding.drop? (younger + 1) = some after) :
    ∃ number, Stranded slots after number := by
  obtain ⟨⟨number, guard⟩, found, rfl⟩ := Option.map_eq_some_iff.mp dropped
  have listed : number ∈ holding.held.map Prod.fst :=
    List.mem_map_of_mem (List.mem_of_getElem? found)
  exact ⟨number, (List.pairwise_cons.mp holding.ordered).1 number listed, forall_ne_of_drop? found,
    onTop.piled.exists_above found⟩

theorem Stranded.install {number : Nat} (stranded : Stranded slots holding number)
    (slot : ThreadSlot) : Stranded slots (holding.install slot) number := by
  obtain ⟨made, dropped, entry, member, same⟩ := stranded
  refine ⟨Nat.lt_succ_of_lt made, ?_, entry, List.mem_cons_of_mem _ member, same⟩
  exact List.forall_mem_cons.mpr ⟨Nat.ne_of_gt made, dropped⟩

/-- When the guard that found the value is dropped, the value comes back. -/
theorem Stranded.drop? {number younger : Nat} (stranded : Stranded slots holding number)
    (dropped : holding.drop? younger = some after) :
    Stranded slots after number ∨
      after.surroundings.thread = slots number ∧ ∀ entry ∈ after.held, entry.1 ≠ number := by
  obtain ⟨made, absent, entry, member, same⟩ := stranded
  obtain ⟨chosen, found, rfl⟩ := Option.map_eq_some_iff.mp dropped
  have fewer : ∀ entry ∈ holding.held.eraseIdx younger, entry.1 ≠ number :=
    fun entry kept => absent entry (List.mem_of_mem_eraseIdx kept)
  -- The guard that is dropped need not be the one at hand, for several may have found the same value.
  by_cases back : chosen.2.previous = slots number
  · exact .inr ⟨back, fewer⟩
  · obtain ⟨index, at'⟩ := List.getElem?_of_mem member
    have other : index ≠ younger := by
      rintro rfl
      rw [found] at at'
      cases at'
      exact back same
    have kept : entry ∈ holding.held.eraseIdx younger :=
      List.mem_eraseIdx_iff_getElem?.mpr ⟨index, other, at'⟩
    exact .inl ⟨made, fewer, entry, kept, same⟩

section Distinct

variable (distinct : Function.Injective slots) (foreign : ∀ number, slots number ≠ outer.thread)

include distinct foreign

theorem Stranded.not_noneOutlives {number count : Nat} {schedule : List Handling}
    (all : Handling.DropsAll count schedule) (counted : holding.held.length = count)
    (stranded : Stranded slots holding number) : ¬NoneOutlives slots outer holding schedule := by
  induction all generalizing holding with
  | nil =>
      obtain ⟨entry, member, -⟩ := stranded.found
      rw [List.length_eq_zero_iff.mp counted] at member
      cases member
  | @install count rest behind ih =>
      have more : (holding.install (slots holding.next)).held.length = count + 1 := by
        rw [length_held_install, counted]
      rw [noneOutlives_install_iff]
      exact fun none => ih more (stranded.install _) none.2
  | @drop count younger rest among behind ih =>
      obtain ⟨after, dropped, fewer⟩ := @exists_drop? holding younger (by omega)
      rw [noneOutlives_drop_iff dropped]
      rintro ⟨-, none⟩
      rcases stranded.drop? dropped with still | ⟨back, absent⟩
      · exact ih (by omega) still none
      · obtain ⟨now, same, shown⟩ := none.shows [] List.nil_prefix
        cases same
        rcases shown with early | ⟨entry, member, own⟩
        · exact foreign number (back.symm.trans early)
        · exact absent entry member (distinct (own.symm.trans back))

/-- Guards that are dropped in any other order let a value come back. -/
theorem lastInFirstOut_of_noneOutlives {schedule : List Handling} {count : Nat}
    (all : Handling.DropsAll count schedule) (counted : holding.held.length = count)
    (onTop : OnTop slots outer holding) (none : NoneOutlives slots outer holding schedule) :
    Handling.LastInFirstOut schedule := by
  induction all generalizing holding with
  | nil => exact List.forall_mem_nil _
  | @install count rest behind ih =>
      have more : (holding.install (slots holding.next)).held.length = count + 1 := by
        rw [length_held_install, counted]
      rw [noneOutlives_install_iff] at none
      exact List.forall_mem_cons.mpr ⟨.inl rfl, ih more onTop.install none.2⟩
  | @drop count younger rest among behind ih =>
      obtain ⟨after, dropped, fewer⟩ := @exists_drop? holding younger (by omega)
      rw [noneOutlives_drop_iff dropped] at none
      cases younger with
      | zero =>
          exact List.forall_mem_cons.mpr ⟨.inr rfl, ih (by omega) (onTop.drop? dropped) none.2⟩
      | succ younger =>
          obtain ⟨number, stranded⟩ := onTop.exists_stranded dropped
          exact absurd none.2 (stranded.not_noneOutlives distinct foreign behind (by omega))

end Distinct

theorem onTop_start (slots : Nat → ThreadSlot) (outer : Surroundings) :
    OnTop slots outer (start outer) :=
  ⟨.nil, rfl⟩

/-- Guards that are dropped in the reverse order of their installation work like nested scopes, whatever they
install and whatever was there before. In every other order some value outlives its guard, if the values are
distinct and not there before. -/
theorem none_outlives_iff_lastInFirstOut {schedule : List Handling}
    (all : Handling.DropsAll 0 schedule) (slots : Nat → ThreadSlot) (outer : Surroundings) :
    (Handling.LastInFirstOut schedule → NoneOutlives slots outer (start outer) schedule) ∧
      (Function.Injective slots → (∀ number, slots number ≠ outer.thread) →
        (NoneOutlives slots outer (start outer) schedule ↔ Handling.LastInFirstOut schedule)) := by
  have enough (reversed : Handling.LastInFirstOut schedule) :
      NoneOutlives slots outer (start outer) schedule :=
    noneOutlives_of_lastInFirstOut all rfl (onTop_start slots outer) reversed
  refine ⟨enough, fun distinct foreign => ⟨fun none => ?_, enough⟩⟩
  exact lastInFirstOut_of_noneOutlives distinct foreign all rfl (onTop_start slots outer) none

/-- An invocation for each number. -/
def call (number : Nat) : Invocation :=
  ⟨.named "p.Users" "" "", ⟨"find", []⟩, number⟩

/-- A slot for each number. -/
def calls (number : Nat) : ThreadSlot :=
  .active (call number)

theorem injective_calls : Function.Injective calls := by
  intro left right same
  injection same with same
  exact congrArg Invocation.id same

/-- Three guards, each of which is dropped before the ones below it. -/
def stacked : List Handling :=
  [.install, .install, .drop 0, .install, .drop 0, .drop 0]

/-- Two guards, the first of which is dropped first. -/
def crossed : List Handling :=
  [.install, .install, .drop 1, .drop 0]

theorem dropsAll_crossed : Handling.DropsAll 0 crossed :=
  .install (.install (.drop (Nat.le_refl 1) (.drop (Nat.le_refl 0) .nil)))

theorem none_outlives_iff_lastInFirstOut_stacked :
    NoneOutlives calls .initial (start .initial) stacked ∧
      ¬NoneOutlives calls .initial (start .initial) crossed := by
  have foreign : ∀ number, calls number ≠ Surroundings.initial.thread := nofun
  have all : Handling.DropsAll 0 stacked :=
    .install (.install (.drop (by decide) (.install (.drop (by decide) (.drop (by decide) .nil)))))
  have reversed : Handling.LastInFirstOut stacked := by decide
  have mixed : ¬Handling.LastInFirstOut crossed := by decide
  obtain ⟨enough, -⟩ := none_outlives_iff_lastInFirstOut all calls .initial
  obtain ⟨-, exactly⟩ := none_outlives_iff_lastInFirstOut dropsAll_crossed calls .initial
  exact ⟨enough reversed, fun none => mixed ((exactly injective_calls foreign).mp none)⟩

/-- Two guards that are dropped front to back leave the first invocation in progress, with no guard held. -/
theorem first_outlives_crossed :
    Handling.DropsAll 0 crossed ∧ Surroundings.initial.current? = none ∧
      ∃ last, run calls crossed (start .initial) = some last ∧ last.held = [] ∧
        last.surroundings.current? = some (call 0) :=
  ⟨dropsAll_crossed, rfl, _, rfl, rfl, rfl⟩

end Holding
end FragmentAssembly
