import Testbench.Time

/-!
What a test is instrumented with: a limit on its time and a check for leaks. Each field is decided
by the method if it says so, else by its class, else by what the class inherited.
-/

namespace Testbench

structure Policy where
  /-- No limit means no timer. -/
  timeout : Option Nat := some (Duration.ofSeconds 1)
  leakCheck : Bool := true
deriving DecidableEq

/-- What one level says; a field that is `none` says nothing. -/
structure Overrides where
  timeout : Option (Option Nat) := none
  leakCheck : Option Bool := none
deriving DecidableEq

def Overrides.apply (overrides : Overrides) (base : Policy) : Policy where
  timeout := overrides.timeout.getD base.timeout
  leakCheck := overrides.leakCheck.getD base.leakCheck

def Policy.resolve (inherited : Policy) (forClass forMethod : Overrides) : Policy :=
  forMethod.apply (forClass.apply inherited)

end Testbench
