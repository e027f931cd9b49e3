import Testbench.Fixture

/-!
The time guard: a test is interrupted at its next switch once its time is over. The timer is armed for
each run of the test and disarmed however the run ends.
-/

namespace Testbench

variable {ν σ ε α : Type}

namespace Timeout

/-- Starts the timeout for the time of the task. -/
def during (timeout : Timeout) (task : Task ν σ ε α) : Task ν σ ε α := do
  Task.orPanic (.ask (.startTimeout timeout))
  task.andThen (do let _ ← Program.ask (.cancelTimeout timeout))

end Timeout

/-- Without a limit the test is left as it is. -/
def guardTime (limit : Option Nat) (test : TestBody ν σ) : TestBody ν σ :=
  match limit with
  | none => test
  | some limit => fun fixture => do
    let timeout ← Task.ask (.newTimeout (some limit))
    { timeout with message := some "test timed out" }.during (test fixture)

end Testbench
