import Mathlib.Data.List.Forall2
import Testbench.Proofs.LazyQueueLaws

/-! Queues that differ in what their timers carry. They have the same alarms and keep an action for the same timers, so
they fire, skip and sweep alike, and what they hand out goes together. -/

namespace Testbench

universe u v

namespace Registry

variable {κ : Type v} {α : Type u} (T : α → α → Prop)

/-- The same keys are in use, for values that go together. -/
def Paired (registry other : Registry κ α) : Prop :=
  List.Forall₂ (fun entry entry' => entry.1 = entry'.1 ∧ T entry.2 entry'.2) registry.entries other.entries

variable {T} {registry other : Registry κ α}

theorem Paired.symm (paired : registry.Paired T other) : other.Paired (flip T) registry :=
  List.Forall₂.flip (paired.imp fun _ _ pair => And.imp_left Eq.symm pair)

theorem Paired.mono {U : α → α → Prop} (paired : registry.Paired T other)
    (implies : ∀ value value', T value value' → U value value') : registry.Paired U other :=
  List.Forall₂.imp (fun _ _ => And.imp_right (implies _ _)) paired

theorem Paired.size (paired : registry.Paired T other) : registry.size = other.size := List.Forall₂.length_eq paired

variable [DecidableEq κ]

theorem Paired.get? (paired : registry.Paired T other) (key : κ) : Option.Rel T (registry.get? key) (other.get? key) := by
  obtain ⟨entries⟩ := registry
  obtain ⟨entries'⟩ := other
  change List.Forall₂ _ entries entries' at paired
  simp only [Registry.get?]
  induction paired with
  | nil => exact .none
  | @cons entry entry' _ _ pair _ ih =>
    obtain ⟨same, goes⟩ := pair
    simp only [List.find?_cons, same]
    cases decide (entry'.1 = key) with
    | true => exact .some goes
    | false => exact ih

theorem Paired.get?_some (paired : registry.Paired T other) {key : κ} {value : α}
    (kept : registry.get? key = some value) : ∃ value', other.get? key = some value' ∧ T value value' := by
  have found := paired.get? key
  rw [kept] at found
  generalize other.get? key = value' at found ⊢
  cases found with
  | some goes => exact ⟨_, rfl, goes⟩

theorem Paired.get?_none (paired : registry.Paired T other) {key : κ} (absent : registry.get? key = none) :
    other.get? key = none := by
  have found := paired.get? key
  rw [absent] at found
  generalize other.get? key = value' at found ⊢
  cases found
  rfl

theorem Paired.contains (paired : registry.Paired T other) (key : κ) : registry.contains key = other.contains key := by
  have found := paired.get? key
  unfold Registry.contains
  generalize registry.get? key = value, other.get? key = value' at found ⊢
  cases found <;> rfl

theorem Paired.erase (paired : registry.Paired T other) (key : κ) : (registry.erase key).Paired T (other.erase key) := by
  obtain ⟨entries⟩ := registry
  obtain ⟨entries'⟩ := other
  change List.Forall₂ _ entries entries' at paired
  simp only [Paired, Registry.erase]
  induction paired with
  | nil => exact .nil
  | @cons entry entry' _ _ pair _ ih =>
    simp only [List.filter_cons, pair.1]
    cases decide (entry'.1 ≠ key) with
    | true => exact .cons pair ih
    | false => exact ih

theorem Paired.set (paired : registry.Paired T other) (key : κ) {value value' : α} (goes : T value value') :
    (registry.set key value).Paired T (other.set key value') :=
  .cons ⟨rfl, goes⟩ (paired.erase key)

end Registry

namespace LazyQueue

variable {α : Type u} (T : α → α → Prop)

structure Paired (queue other : LazyQueue α) : Prop where
  heap : queue.heap = other.heap
  actions : queue.actions.Paired T other.actions

variable {T} {queue other : LazyQueue α} (paired : queue.Paired T other)

include paired

theorem Paired.symm : other.Paired (flip T) queue := ⟨paired.heap.symm, paired.actions.symm⟩

theorem Paired.mono {U : α → α → Prop} (implies : ∀ action action', T action action' → U action action') :
    queue.Paired U other := ⟨paired.heap, paired.actions.mono implies⟩

theorem Paired.isArmed : queue.isArmed = other.isArmed := funext paired.actions.contains

/-- The timers are armed for the same deadlines. -/
theorem Paired.alarms_armed : queue.armed.map (·.1) = other.armed.map (·.1) := by
  unfold armed
  rw [List.map_filterMap, List.map_filterMap, paired.heap]
  refine List.filterMap_congr fun alarm _ => ?_
  have found := paired.actions.get? alarm.id
  generalize queue.actions.get? alarm.id = action, other.actions.get? alarm.id = action' at found ⊢
  cases found <;> rfl

theorem Paired.armedCount : queue.armedCount = other.armedCount := paired.actions.size

theorem Paired.arm (id deadline : Nat) {action action' : α} (goes : T action action') :
    (queue.arm id deadline action).Paired T (other.arm id deadline action') where
  heap := congrArg (TimerHeap.insert · id deadline) paired.heap
  actions := paired.actions.set id goes

theorem Paired.cancel? (id : Nat) : Option.Rel (Paired T) (queue.cancel? id) (other.cancel? id) := by
  unfold LazyQueue.cancel?
  rw [paired.isArmed]
  split
  · exact .some ⟨paired.heap, paired.actions.erase id⟩
  · exact .none

theorem Paired.collect : queue.collect.Paired T other.collect where
  heap := by simp only [LazyQueue.collect, paired.heap, paired.isArmed]
  actions := paired.actions

theorem Paired.tidy (reclaim : Bool) : (queue.tidy reclaim).Paired T (other.tidy reclaim) := by
  unfold LazyQueue.tidy crowded
  rw [paired.heap, paired.armedCount]
  split
  · exact paired.collect
  · exact paired

omit paired

section

variable {reclaim : Bool} {alarm : Alarm} {heap : TimerHeap}

theorem next_of_empty (popped : (queue.tidy reclaim).heap.pop = none) :
    queue.next reclaim = (none, queue.tidy reclaim) := by
  rw [LazyQueue.next]
  split
  · rfl
  next popped' => cases popped.symm.trans popped'

theorem next_of_armed (popped : (queue.tidy reclaim).heap.pop = some (alarm, heap)) {action : α}
    (kept : (queue.tidy reclaim).actions.get? alarm.id = some action) :
    queue.next reclaim = (some (alarm, action), ⟨heap, (queue.tidy reclaim).actions.erase alarm.id⟩) := by
  rw [LazyQueue.next]
  split
  next popped' => cases popped.symm.trans popped'
  next popped' =>
    cases popped.symm.trans popped'
    simp only [kept]

theorem next_of_stale (popped : (queue.tidy reclaim).heap.pop = some (alarm, heap))
    (stale : (queue.tidy reclaim).actions.get? alarm.id = none) :
    queue.next reclaim = LazyQueue.next ⟨heap, (queue.tidy reclaim).actions⟩ reclaim := by
  rw [LazyQueue.next]
  split
  next popped' => cases popped.symm.trans popped'
  next popped' =>
    cases popped.symm.trans popped'
    simp only [stale]

end

/-- The same alarm, with actions that go together. -/
theorem Paired.next (paired : queue.Paired T other) (reclaim : Bool) :
    Option.Rel (fun timer timer' => timer.1 = timer'.1 ∧ T timer.2 timer'.2) (queue.next reclaim).1
        (other.next reclaim).1 ∧
      (queue.next reclaim).2.Paired T (other.next reclaim).2 := by
  fun_induction queue.next reclaim generalizing other with
  | case1 queue popped =>
    have tidied := paired.tidy reclaim
    rw [tidied.heap] at popped
    rw [next_of_empty popped]
    exact ⟨.none, tidied⟩
  | case2 queue alarm heap popped rest action =>
    rename_i kept
    have tidied := paired.tidy reclaim
    rw [tidied.heap] at popped
    obtain ⟨action', kept', goes⟩ := tidied.actions.get?_some kept
    rw [next_of_armed popped kept']
    exact ⟨.some ⟨rfl, goes⟩, rfl, tidied.actions.erase alarm.id⟩
  | case3 queue alarm heap popped rest stale =>
    rename_i ih
    have tidied := paired.tidy reclaim
    rw [tidied.heap] at popped
    rw [next_of_stale popped (tidied.actions.get?_none stale)]
    exact ih ⟨rfl, tidied.actions⟩

end LazyQueue

end Testbench
