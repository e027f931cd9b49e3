import Testbench.Program.Basic

/-!
What a task does with the test case it runs for.
-/

namespace Testbench.CaseId

variable {ν σ : Type}

def read (case : CaseId) : Program ν σ TestCase := .ask (.readCase case)

def setUp (case : CaseId) : Program ν σ Unit := .ask (.setUpCase case)

def setExpected (case : CaseId) (expected : SwitchExpected) : Program ν σ Unit := .ask (.classifyCase case expected)

/-- Looks the expectation up, unless it was decided before. -/
def resolve (case : CaseId) (policy : SwitchPolicy) : Program ν σ SwitchExpected := do
  let expected := ((← case.read).resolve policy).switchExpected
  case.setExpected expected
  return expected

def switches (case : CaseId) : Program ν σ (Option Nat) := do
  let state ← case.read
  return state.switches (← .ask (.hub .switchCount))

def checkSwitches (case : CaseId) : Program ν σ (Except Failure Unit) := do
  let state ← case.read
  return state.checkSwitches (← .ask (.hub .switchCount))

/-- Releases the capture and hands what nobody asked for to the console. -/
def tearDown (case : CaseId) : Program ν σ Unit := do
  let state ← case.read
  .ask (.diagnostics (.replay state.capture))

/-- The case is gone, and its capture with it. -/
def drop (case : CaseId) : Program ν σ Unit := do
  let state ← case.read
  .ask (.diagnostics (.drop state.capture))

end Testbench.CaseId
