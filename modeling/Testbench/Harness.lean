import Testbench.Report.Record
import Testbench.Suite

/-!
The harness runs tests one after the other on one hub. A test that fails or panics is torn down like any
other and becomes a record.
-/

namespace Testbench

structure Harness where
  config : Config := {}
  switchPolicy : SwitchPolicy := .silent

namespace Harness

variable {ν σ : Type}

/-- The case for one run of a test. -/
def caseFor (harness : Harness) (suite : Suite ν σ) (test : RegisteredTest ν σ) : Program ν σ CaseId := do
  let case ← .ask (.newCase ⟨suite.fileStem, suite.className, test.name⟩ test.policy harness.config)
  case.setExpected suite.switchExpected
  return case

/-- Everything up to the end of the test itself. -/
def perform (harness : Harness) (test : RegisteredTest ν σ) (fixture : Fixture ν σ) : Task ν σ Failure Unit := do
  ExceptT.lift fixture.case.setUp
  let _ ← ExceptT.lift (fixture.case.resolve harness.switchPolicy)
  fixture.setUp
  test.wrapped fixture

/-- A panic in a hook skips what comes after it. -/
def tearDown (fixture : Fixture ν σ) : Task ν σ Failure Unit := do
  Task.orPanic fixture.cleanup
  match ← fixture.tearDown.outcome with
  | .error (.panicked panic) => .panic panic
  | outcome =>
    ExceptT.lift fixture.case.tearDown
    .resume outcome

/-- A panic is caught and is a failure like any other. -/
def settle : Except (Stop Failure) Unit → Option Failure
  | .ok () => none
  | .error (.failed failure) => some failure
  | .error (.panicked panic) => some (.panicked panic)

/-- A failure of the test hides one of its tear-down. -/
def execute (harness : Harness) (suite : Suite ν σ) (test : RegisteredTest ν σ)
    (factory : CaseId → Fixture ν σ) : Program ν σ TestRecord := do
  let case ← harness.caseFor suite test
  let start ← .ask .clock
  let fixture := factory case
  fixture.prepare
  let outcome ← (harness.perform test fixture).run
  let switches ← fixture.case.switches
  let state ← fixture.case.read
  let tornDown ← (tearDown fixture).run
  let stop ← .ask .clock
  fixture.case.drop
  return {
    test := (⟨suite.fileStem, suite.className, test.name⟩ : TestId).fullName
    failure := (settle outcome).or (settle tornDown)
    duration := stop - start
    switches := switches
    switchExpected := state.switchExpected
    policy := test.policy }

def unknownTest (suite : Suite ν σ) (name : String) : Failure :=
  .registration (suite.fileStem ++ "." ++ suite.className ++ " has no test " ++ Text.quoted name)

def runTest (harness : Harness) (suite : Suite ν σ) (name : String)
    (factory : CaseId → Fixture ν σ) : Program ν σ (Except Failure TestRecord) := do
  match suite.get? name with
  | none => return .error (unknownTest suite name)
  | some test => return .ok (← harness.execute suite test factory)

def runTests (harness : Harness) (suite : Suite ν σ) (factory : CaseId → Fixture ν σ) :
    List (RegisteredTest ν σ) → Program ν σ (List TestRecord)
  | [] => return []
  | test :: rest => do
    let record ← harness.execute suite test factory
    return record :: (← runTests harness suite factory rest)

def runSuite (harness : Harness) (suite : Suite ν σ) (factory : CaseId → Fixture ν σ) :
    Program ν σ Report := do
  return ⟨← harness.runTests suite factory suite.tests⟩

end Harness

end Testbench
