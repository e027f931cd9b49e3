import Testbench.Harness
import Testbench.Hub.LazyQueue
import Testbench.Run

/-!
Benches ready for use: a fresh hub over a lazy queue, and what tests of the harness itself start from.
-/

namespace Testbench

variable {ν σ : Type}

abbrev Bench (ν σ : Type) := World (LazyQueue (Action ν σ)) ν σ

namespace Bench

def fresh (front : Front) (memory : σ) : Bench ν σ := { hub := { queue := {} }, front, memory }

def counting (memory : σ) : Bench ν σ := fresh (.counting 0) memory

def pendingTimers (bench : Bench ν σ) : Nat := bench.hub.queue.armedCount

/-- Alarms in the heap, stale ones included. -/
def heapSize (bench : Bench ν σ) : Nat := bench.hub.queue.heap.size

end Bench

/-- A case that belongs to no suite. -/
def standaloneCase (method : String) : Program ν σ CaseId :=
  .ask (.newCase ⟨"test_utils", "TestCase", method⟩ {} {})

/-- A harness that is neither verbose nor echoes. -/
def quietHarness : Harness := {}

end Testbench
