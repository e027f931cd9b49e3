import Testbench.Program.Case

/-!
A fixture surrounds a test: its hooks run before and after the test, and it may supply the blocking
operations that contracts are about.
-/

namespace Testbench

def notOverridden : Failure := .notImplemented "override me in subclass"

structure Fixture (ν σ : Type) where
  case : CaseId
  /-- What making the fixture takes. -/
  prepare : Program ν σ Unit := pure ()
  setUp : Task ν σ Failure Unit := pure ()
  tearDown : Task ν σ Failure Unit := pure ()
  /-- Releases what one run of the test holds; it cannot fail. -/
  cleanup : Program ν σ (Except Panic Unit) := pure (.ok ())
  /-- An operation that answers nothing when its time is over. -/
  wait : WaitLimit → Task ν σ Failure (Option ν) := fun _ => .fail notOverridden
  /-- An operation that fails with its timeout when its time is over. -/
  get : WaitLimit → Task ν σ Failure ν := fun _ => .fail notOverridden

abbrev TestBody (ν σ : Type) := Fixture ν σ → Task ν σ Failure Unit

end Testbench
