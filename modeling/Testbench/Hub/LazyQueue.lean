import Testbench.Hub.TimerHeap
import Testbench.Hub.TimerQueue
import Testbench.Registry

/-!
Timers that are cancelled lazily: cancelling forgets the action and leaves the alarm in the heap,
where it is stale until it is popped or swept out.
-/

namespace Testbench

structure LazyQueue (α : Type u) where
  heap : TimerHeap := .empty
  actions : Registry Nat α := .empty

namespace LazyQueue

variable {α : Type u}

def arm (queue : LazyQueue α) (id : Nat) (deadline : Nat) (action : α) : LazyQueue α :=
  ⟨queue.heap.insert id deadline, queue.actions.set id action⟩

def isArmed (queue : LazyQueue α) (id : Nat) : Bool := queue.actions.contains id

def cancel? (queue : LazyQueue α) (id : Nat) : Option (LazyQueue α) :=
  if queue.isArmed id then some { queue with actions := queue.actions.erase id } else none

def armedCount (queue : LazyQueue α) : Nat := queue.actions.size

/-- Sweeps the stale alarms out of the heap. -/
def collect (queue : LazyQueue α) : LazyQueue α :=
  { queue with heap := (queue.heap.retain queue.isArmed).2 }

/-- How many stale alarms are let be, beside one for each armed timer. -/
def staleSlack : Nat := 16

def crowded (queue : LazyQueue α) : Bool := queue.heap.size > queue.armedCount * 2 + staleSlack

/-- Sweeps when more alarms are stale than are let be. -/
def tidy (queue : LazyQueue α) (reclaim : Bool) : LazyQueue α :=
  if reclaim && queue.crowded then queue.collect else queue

theorem size_tidy_le (queue : LazyQueue α) (reclaim : Bool) : (queue.tidy reclaim).heap.size ≤ queue.heap.size := by
  unfold tidy
  split
  · exact TimerHeap.size_retain_le _ _
  · exact Nat.le_refl _

/-- Skips the stale alarms. -/
def next (queue : LazyQueue α) (reclaim : Bool) : Option (Alarm × α) × LazyQueue α :=
  match _popped : (queue.tidy reclaim).heap.pop with
  | none => (none, queue.tidy reclaim)
  | some (alarm, heap) =>
    let rest : LazyQueue α := ⟨heap, (queue.tidy reclaim).actions⟩
    match rest.actions.get? alarm.id with
    | some action => (some (alarm, action), { rest with actions := rest.actions.erase alarm.id })
    | none => rest.next reclaim
termination_by queue.heap.size
decreasing_by
  have smaller := TimerHeap.size_pop _popped
  have tidied := size_tidy_le queue reclaim
  omega

instance : TimerQueue α (LazyQueue α) where
  empty := {}
  arm := arm
  cancel? := cancel?
  isArmed := isArmed
  armedCount := armedCount
  next := next
  collect := collect

end LazyQueue

end Testbench
