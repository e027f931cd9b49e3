import Testbench.Diagnostics.Sinks
import Testbench.Naming
import Testbench.Policy
import Testbench.SwitchTable

/-!
What the harness keeps of one test that is being run.
-/

namespace Testbench

structure CaseId where
  index : Nat
deriving DecidableEq

structure TestCase where
  id : TestId
  policy : Policy
  /-- The switches counted when the test was set up. -/
  countAtSetUp : Option Nat := none
  switchExpected : SwitchExpected := .unresolved
  capture : CaptureId

namespace TestCase

/-- The switches since set-up, when the hub counts them. -/
def switches (case : TestCase) (countNow : Option Nat) : Option Nat :=
  match countNow, case.countAtSetUp with
  | some now, some start => some (now - start)
  | _, _ => none

/-- A lookup decides only what was not decided before. -/
def resolve (case : TestCase) (policy : SwitchPolicy) : TestCase :=
  if case.switchExpected = .unresolved then { case with switchExpected := policy case.id.fullName } else case

/-- The switches since set-up are what was expected; a hub that does not count is believed. -/
def checkSwitches (case : TestCase) (countNow : Option Nat) : Except Failure Unit :=
  match case.switches countNow with
  | none => .ok ()
  | some switches =>
    if case.switchExpected.accepts switches then .ok ()
    else .error (.assertion (case.id.fullName ++ " expected " ++ case.switchExpected.name ++ " but performed " ++
      toString switches ++ " switches"))

end TestCase

end Testbench
