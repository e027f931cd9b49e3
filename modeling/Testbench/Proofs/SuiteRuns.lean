import Testbench.Bench
import Testbench.Proofs.InstrumentedRuns

/-! What the harness does with the tests of a suite. Each of them is set up, invoked and torn down, and each has its
record, whatever becomes of it and of those before it. -/

namespace Testbench

open Harness (settle)

variable {ν σ : Type} {Q : Type 1} [TimerQueue (Action ν σ) Q]

namespace World

/-- The case for one run of a test. -/
def opened (world : World Q ν σ) (harness : Harness) (suite : Suite ν σ) (test : RegisteredTest ν σ) :
    CaseId × World Q ν σ :=
  let (case, made) := world.newCase ⟨suite.fileStem, suite.className, test.name⟩ test.policy harness.config
  (case, made.classifyCase case suite.switchExpected)

/-- The case is set up, and it is known whether the test is to switch. -/
def readied (world : World Q ν σ) (case : CaseId) (policy : SwitchPolicy) : World Q ν σ :=
  let looked := world.setUpCase case
  looked.classifyCase case ((looked.case case).resolve policy).switchExpected

/-- The capture of the case is released, and what nobody asked for is written. -/
def replayed (world : World Q ν σ) (case : CaseId) : World Q ν σ :=
  (world.onDiagnostics (.replay (world.case case).capture)).2

def dropped (world : World Q ν σ) (case : CaseId) : World Q ν σ :=
  (world.onDiagnostics (.drop (world.case case).capture)).2

end World

/-- The run of one test, from hook to hook. -/
structure TestRun (Q : Type 1) (ν σ : Type) where
  fixture : Fixture ν σ
  /-- The clock stands at the beginning of the test. -/
  opened : World Q ν σ
  /-- The fixture has been made. -/
  made : World Q ν σ
  setUp : Except (Stop Failure) Unit
  settled : World Q ν σ
  invocations : List (Invocation Q ν σ)
  /-- Of the set-up if it stops, and else of the body. -/
  outcome : Except (Stop Failure) Unit
  performed : World Q ν σ
  cleaned : World Q ν σ
  tornDown : Except (Stop Failure) Unit
  down : World Q ν σ

namespace TestRun

/-- What nobody asked for is written, unless the tear-down panicked. -/
def closed (run : TestRun Q ν σ) : World Q ν σ :=
  match run.tornDown with
  | .error (.panicked _) => run.down
  | _ => run.down.replayed run.fixture.case

def record (run : TestRun Q ν σ) (suite : Suite ν σ) (test : RegisteredTest ν σ) : TestRecord where
  test := (⟨suite.fileStem, suite.className, test.name⟩ : TestId).fullName
  failure := (settle run.outcome).or (settle run.tornDown)
  duration := run.closed.clock - run.opened.clock
  switches := (run.performed.case run.fixture.case).switches run.performed.switchCount
  switchExpected := (run.performed.case run.fixture.case).switchExpected
  policy := test.policy

/-- Why the test fails. -/
inductive Fails (run : TestRun Q ν σ) : Failure → Prop where
  | performing {failure : Failure} (settled : settle run.outcome = some failure) : Fails run failure
  | tearingDown {failure : Failure} (passed : run.outcome = .ok ()) (settled : settle run.tornDown = some failure) :
      Fails run failure

/-- What the record of a test is to say of it. -/
inductive Verdict (run : TestRun Q ν σ) : Option Failure → TestStatus → Prop where
  | passed (performed : run.outcome = .ok ()) (tornDown : run.tornDown = .ok ()) : Verdict run none .passed
  | failed {failure : Failure} (fails : run.Fails failure) (other : failure.kind ≠ .panicked) :
      Verdict run (some failure) .failed
  | panicked {failure : Failure} (fails : run.Fails failure) (panics : failure.kind = .panicked) :
      Verdict run (some failure) .panicked

end TestRun

section

variable (turns : Nat) (harness : Harness) (suite : Suite ν σ) (factory : CaseId → Fixture ν σ)
  (test : RegisteredTest ν σ) (world : World Q ν σ) (run : TestRun Q ν σ)

/-- The fixture is made for a new case. -/
structure Makes : Prop where
  opened : run.opened = (world.opened harness suite test).2
  fixture : run.fixture = factory (world.opened harness suite test).1
  prepared : run.fixture.prepare.run turns run.opened = some ((), run.made)

structure SetsUp : Prop extends Makes turns harness suite factory test world run where
  setUp : run.fixture.setUp.run.run turns (run.made.readied run.fixture.case harness.switchPolicy) =
    some (run.setUp, run.settled)

/-- The body is invoked as its instrumentation asks for, but only if the set-up succeeded. -/
structure Performs : Prop extends SetsUp turns harness suite factory test world run where
  body : match run.setUp with
    | .ok () => Instruments turns test.policy test.body run.fixture run.settled run.invocations run.outcome run.performed
    | .error stop => run.invocations = [] ∧ run.outcome = .error stop ∧ run.performed = run.settled

structure CleansLast : Prop extends Performs turns harness suite factory test world run where
  cleaned : run.fixture.cleanup.run turns run.performed = some (.ok (), run.cleaned)

structure TearsDown : Prop extends CleansLast turns harness suite factory test world run where
  tornDown : run.fixture.tearDown.run.run turns run.cleaned = some (run.tornDown, run.down)

/-- A hook of the test, or an invocation of its body, does not finish. -/
inductive TestHangs : Prop where
  | prepare (stuck : (factory (world.opened harness suite test).1).prepare.run turns
      (world.opened harness suite test).2 = none)
  | setUp {run : TestRun Q ν σ} (makes : Makes turns harness suite factory test world run)
      (stuck : run.fixture.setUp.run.run turns (run.made.readied run.fixture.case harness.switchPolicy) = none)
  | body {run : TestRun Q ν σ} (sets : SetsUp turns harness suite factory test world run)
      (passed : run.setUp = .ok ()) (hangs : Hangs turns test.policy test.body run.fixture run.settled)
  | cleanup {run : TestRun Q ν σ} (performs : Performs turns harness suite factory test world run)
      (stuck : run.fixture.cleanup.run turns run.performed = none)
  | tearDown {run : TestRun Q ν σ} (cleans : CleansLast turns harness suite factory test world run)
      (stuck : run.fixture.tearDown.run.run turns run.cleaned = none)

end

section

variable (turns : Nat) (harness : Harness) (suite : Suite ν σ) (factory : CaseId → Fixture ν σ)
  (test : RegisteredTest ν σ)

/-- A test that finishes, its record, and the world that is left. -/
inductive Tested (world : World Q ν σ) : TestRecord → World Q ν σ → Prop where
  | intro {run : TestRun Q ν σ} (tears : TearsDown turns harness suite factory test world run)
      (verdict : run.Verdict (run.record suite test).failure (run.record suite test).status) :
      Tested world (run.record suite test) (run.closed.dropped run.fixture.case)

/-- The tests of a list that finish, one after the other, and their records. -/
inductive InTurn (tested : RegisteredTest ν σ → World Q ν σ → TestRecord → World Q ν σ → Prop) :
    World Q ν σ → List (RegisteredTest ν σ) → List TestRecord → World Q ν σ → Prop where
  | none {world : World Q ν σ} : InTurn tested world [] [] world
  | more {world mid after : World Q ν σ} {test : RegisteredTest ν σ} {tests : List (RegisteredTest ν σ)}
      {record : TestRecord} {records : List TestRecord} (first : tested test world record mid)
      (rest : InTurn tested mid tests records after) : InTurn tested world (test :: tests) (record :: records) after

/-- One of the tests does not finish, and those before it do. -/
inductive OneHangs (tested : RegisteredTest ν σ → World Q ν σ → TestRecord → World Q ν σ → Prop)
    (hangs : RegisteredTest ν σ → World Q ν σ → Prop) : World Q ν σ → List (RegisteredTest ν σ) → Prop where
  | here {world : World Q ν σ} {test : RegisteredTest ν σ} {tests : List (RegisteredTest ν σ)}
      (stuck : hangs test world) : OneHangs tested hangs world (test :: tests)
  | later {world mid : World Q ν σ} {test : RegisteredTest ν σ} {tests : List (RegisteredTest ν σ)}
      {record : TestRecord} (first : tested test world record mid) (rest : OneHangs tested hangs mid tests) :
      OneHangs tested hangs world (test :: tests)

end

section

variable {turns : Nat} {harness : Harness} {suite : Suite ν σ} {test : RegisteredTest ν σ}
  {factory : CaseId → Fixture ν σ} {fixture : Fixture ν σ}

theorem run_caseFor (world : World Q ν σ) :
    (harness.caseFor suite test).run turns world = some (world.opened harness suite test) := rfl

theorem run_setUp (case : CaseId) (world : World Q ν σ) :
    case.setUp.run turns world = some ((), world.setUpCase case) := rfl

theorem run_resolve (case : CaseId) (policy : SwitchPolicy) (world : World Q ν σ) :
    (case.resolve policy).run turns world = some (((world.case case).resolve policy).switchExpected,
      world.classifyCase case ((world.case case).resolve policy).switchExpected) := rfl

theorem run_replay (case : CaseId) (world : World Q ν σ) :
    case.tearDown.run turns world = some ((), world.replayed case) := rfl

theorem run_perform (world : World Q ν σ) : (harness.perform test fixture).run.run turns world =
    (fixture.setUp.run.run turns (world.readied fixture.case harness.switchPolicy)).bind fun
      | (.ok _, settled) => (test.wrapped fixture).run.run turns settled
      | (.error stop, settled) => some (.error stop, settled) := by
  simp only [Harness.perform, Task.run_bind, Task.run_lift, run_setUp, run_resolve, Option.map_some, Option.bind_some]
  change (fixture.setUp.run.run turns (world.readied fixture.case harness.switchPolicy)).bind _ = _
  congr 1
  funext answered
  obtain ⟨_ | _, settled⟩ := answered <;> rfl

theorem run_tearDown (world : World Q ν σ) : (Harness.tearDown fixture).run.run turns world =
    (fixture.cleanup.run turns world).bind fun
      | (.error panic, cleaned) => some (.error (.panicked panic), cleaned)
      | (.ok _, cleaned) => (fixture.tearDown.run.run turns cleaned).map fun
        | (.error (.panicked panic), down) => (.error (.panicked panic), down)
        | (outcome, down) => (outcome, down.replayed fixture.case) := by
  simp only [Harness.tearDown, Task.run_bind, Task.run_orPanic, Task.run_outcome]
  rcases fixture.cleanup.run turns world with _ | ⟨panic | _, cleaned⟩
  · rfl
  · rfl
  · change ((fixture.tearDown.run.run turns cleaned).map _).bind _ = _
    simp only [Option.bind_some]
    rcases fixture.tearDown.run.run turns cleaned with _ | ⟨(failure | panic) | _, down⟩
    · rfl
    · simp only [Option.map_some, Option.bind_some, Task.run_bind, Task.run_lift, run_replay]
      rfl
    · rfl
    · simp only [Option.map_some, Option.bind_some, Task.run_bind, Task.run_lift, run_replay]
      rfl

variable {world : World Q ν σ} {run : TestRun Q ν σ}

/-- From the set-up to the end of the body. -/
theorem Makes.performs (makes : Makes turns harness suite factory test world run)
    (cleans : Cleans Q turns run.fixture) :
    ((harness.perform test run.fixture).run.run turns run.made).elim (TestHangs turns harness suite factory test world)
      fun (outcome, performed) => ∃ setUp settled invocations,
        Performs turns harness suite factory test world { run with setUp, settled, invocations, outcome, performed } := by
  rw [run_perform]
  rcases setsUp : run.fixture.setUp.run.run turns (run.made.readied run.fixture.case harness.switchPolicy) with
    _ | ⟨stop | ⟨⟩, settled⟩
  · exact TestHangs.setUp makes setsUp
  · have sets : SetsUp turns harness suite factory test world
        { run with setUp := .error stop, settled, invocations := [], outcome := .error stop, performed := settled } :=
      ⟨⟨makes.opened, makes.fixture, makes.prepared⟩, setsUp⟩
    exact ⟨.error stop, settled, [], sets, rfl, rfl, rfl⟩
  · have instrumented := run_instrument test.policy test.body cleans settled
    change Instrumented turns _ _ _ settled ((test.wrapped run.fixture).run.run turns settled) at instrumented
    simp only [Option.bind_some]
    rcases ran : (test.wrapped run.fixture).run.run turns settled with _ | ⟨outcome, performed⟩
    · rw [ran] at instrumented
      have hangs : Hangs turns test.policy test.body run.fixture settled := instrumented
      have sets : SetsUp turns harness suite factory test world { run with setUp := .ok (), settled } :=
        ⟨⟨makes.opened, makes.fixture, makes.prepared⟩, setsUp⟩
      exact TestHangs.body sets rfl hangs
    · rw [ran] at instrumented
      obtain ⟨invocations, instruments⟩ := instrumented
      have sets : SetsUp turns harness suite factory test world
          { run with setUp := .ok (), settled, invocations, outcome, performed } :=
        ⟨⟨makes.opened, makes.fixture, makes.prepared⟩, setsUp⟩
      exact ⟨.ok (), settled, invocations, sets, instruments⟩

theorem run_execute (world : World Q ν σ) : (harness.execute suite test factory).run turns world =
    let opened := (world.opened harness suite test).2
    let fixture := factory (world.opened harness suite test).1
    (fixture.prepare.run turns opened).bind fun (_, made) =>
      ((harness.perform test fixture).run.run turns made).bind fun (outcome, performed) =>
        ((Harness.tearDown fixture).run.run turns performed).map fun (tornDown, closed) =>
          ({  test := (⟨suite.fileStem, suite.className, test.name⟩ : TestId).fullName
              failure := (settle outcome).or (settle tornDown)
              duration := closed.clock - opened.clock
              switches := (performed.case fixture.case).switches performed.switchCount
              switchExpected := (performed.case fixture.case).switchExpected
              policy := test.policy }, closed.dropped fixture.case) := by
  simp only [Harness.execute, Program.run_bind, run_caseFor, Option.bind_some, Program.run_ask, Run.answer]
  congr 1
  funext prepared
  obtain ⟨⟨⟩, made⟩ := prepared
  simp only
  congr 1
  funext ended
  obtain ⟨outcome, performed⟩ := ended
  change (((Harness.tearDown _).run.run turns performed).bind _) = _
  rcases (Harness.tearDown (factory (world.opened harness suite test).1)).run.run turns performed with
    _ | ⟨tornDown, closed⟩ <;> rfl

/-- What every test keeps is kept from one to the next. -/
theorem runTests_inTurn {tested : RegisteredTest ν σ → World Q ν σ → TestRecord → World Q ν σ → Prop}
    {hangs : RegisteredTest ν σ → World Q ν σ → Prop} (kept : World Q ν σ → Prop)
    (finishes : ∀ test world record after, kept world →
      (harness.execute suite test factory).run turns world = some (record, after) →
      tested test world record after ∧ kept after)
    (stuck : ∀ test world, kept world → (harness.execute suite test factory).run turns world = none → hangs test world)
    (tests : List (RegisteredTest ν σ)) (world : World Q ν σ) (start : kept world) :
    ((harness.runTests suite factory tests).run turns world).elim (OneHangs tested hangs world tests)
      fun (records, after) => InTurn tested world tests records after := by
  induction tests generalizing world with
  | nil => exact InTurn.none
  | cons test rest ih =>
    simp only [Harness.runTests, Program.run_bind, Program.run_pure]
    rcases executed : (harness.execute suite test factory).run turns world with _ | ⟨record, mid⟩
    · exact OneHangs.here (stuck test world start executed)
    obtain ⟨first, still⟩ := finishes test world record mid start executed
    have later := ih mid still
    simp only [Option.bind_some]
    rcases others : (harness.runTests suite factory rest).run turns mid with _ | ⟨records, after⟩
    · rw [others] at later
      exact OneHangs.later first later
    · rw [others] at later
      exact InTurn.more first later

theorem run_runTest {name : String} (found : suite.get? name = some test) (world : World Q ν σ) :
    (harness.runTest suite name factory).run turns world =
      ((harness.execute suite test factory).run turns world).map fun (record, after) => (.ok record, after) := by
  simp only [Harness.runTest, found, Program.run_bind]
  cases (harness.execute suite test factory).run turns world <;> rfl

theorem run_runSuite (world : World Q ν σ) : (harness.runSuite suite factory).run turns world =
    ((harness.runTests suite factory suite.tests).run turns world).map fun (records, after) => (⟨records⟩, after) := by
  simp only [Harness.runSuite, Program.run_bind]
  cases (harness.runTests suite factory suite.tests).run turns world <;> rfl

theorem InTurn.names {tests : List (RegisteredTest ν σ)} {records : List TestRecord} {after : World Q ν σ}
    (tested : InTurn (Tested turns harness suite factory) world tests records after) :
    records.map TestRecord.test =
      tests.map fun test => (⟨suite.fileStem, suite.className, test.name⟩ : TestId).fullName := by
  induction tested with
  | none => rfl
  | more first _ ih =>
    cases first
    rw [List.map_cons, List.map_cons, ih]
    rfl

end

/-- What the hooks and the body of a test leave in the memory when they run. -/
inductive Mark where
  | setUp
  | body
  | cleanup
  | tearDown
deriving DecidableEq

/-- The latest mark is the first. -/
def Mark.leave (mark : Mark) : Program Unit (List Mark) Unit := do
  let marks ← Program.ask .recall
  Program.ask (.store (mark :: marks))

def markedFixture (case : CaseId) : Fixture Unit (List Mark) where
  case := case
  setUp := ExceptT.lift Mark.setUp.leave
  cleanup := do
    Mark.cleanup.leave
    return .ok ()
  tearDown := ExceptT.lift Mark.tearDown.leave

/-- A test that leaves its mark, and then goes on as it is told to. -/
def markedTest (name : String) (rest : Task Unit (List Mark) Failure Unit) : RegisteredTest Unit (List Mark) where
  name := name
  overrides := {}
  policy := {}
  body := fun _ => do
    ExceptT.lift Mark.body.leave
    rest
  inherited := false

def markedSuite : Suite Unit (List Mark) where
  fileStem := "marks"
  className := "TestMarks"
  classPolicy := {}
  switchExpected := .unresolved
  tests := [markedTest "test_fails" (Task.fail (.assertion "no")), markedTest "test_panics" (Task.panic ⟨none⟩),
    markedTest "test_passes" (pure ())]

end Testbench
