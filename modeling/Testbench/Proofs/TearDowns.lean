import Testbench.Proofs.CaptureStates
import Testbench.Proofs.SuiteRuns

/-! How the tests of a harness end. Whatever became of the test, its capture is released; what nobody asked for is
written only if neither the cleanup nor the tear-down of the fixture panics. -/

namespace Testbench

open Diagnostics (Released Tidy)

variable {ν σ : Type} {Q : Type 1} [TimerQueue (Action ν σ) Q]

section

variable (turns : Nat) (fixture : Fixture ν σ)

/-- From the end of the body of a test to the end of the test. -/
inductive Closes (performed : World Q ν σ) : World Q ν σ → Prop where
  /-- The hook for the tear-down is not called. -/
  | uncleaned {panic : Panic} {cleaned : World Q ν σ}
      (panics : fixture.cleanup.run turns performed = some (.error panic, cleaned))
      (lost : Released (cleaned.case fixture.case).capture "" cleaned.diagnostics
        (cleaned.dropped fixture.case).diagnostics) :
      Closes performed (cleaned.dropped fixture.case)
  | unfinished {panic : Panic} {cleaned down : World Q ν σ}
      (cleans : fixture.cleanup.run turns performed = some (.ok (), cleaned))
      (panics : fixture.tearDown.run.run turns cleaned = some (.error (.panicked panic), down))
      (lost : Released (down.case fixture.case).capture "" down.diagnostics (down.dropped fixture.case).diagnostics) :
      Closes performed (down.dropped fixture.case)
  | finished {tornDown : Except (Stop Failure) Unit} {cleaned down : World Q ν σ}
      (cleans : fixture.cleanup.run turns performed = some (.ok (), cleaned))
      (tears : fixture.tearDown.run.run turns cleaned = some (tornDown, down))
      (returns : ∀ panic, tornDown ≠ .error (.panicked panic))
      (written : Released (down.case fixture.case).capture (down.diagnostics.unconsumed (down.case fixture.case).capture)
        down.diagnostics ((down.replayed fixture.case).dropped fixture.case).diagnostics) :
      Closes performed ((down.replayed fixture.case).dropped fixture.case)

variable (harness : Harness) (suite : Suite ν σ) (factory : CaseId → Fixture ν σ) (test : RegisteredTest ν σ)

/-- A test from beginning to end. -/
inductive Ends (world : World Q ν σ) : World Q ν σ → Prop where
  | intro {fixture : Fixture ν σ} {made performed after : World Q ν σ} {outcome : Except (Stop Failure) Unit}
      (fresh : fixture = factory (world.opened harness suite test).1)
      (prepared : fixture.prepare.run turns (world.opened harness suite test).2 = some ((), made))
      (performs : (harness.perform test fixture).run.run turns made = some (outcome, performed))
      (closes : Closes turns fixture performed after) : Ends world after

/-- A test that does not finish, since a hook of its fixture or its body does not. -/
inductive NeverEnds (world : World Q ν σ) : Prop where
  | preparing (stuck : (factory (world.opened harness suite test).1).prepare.run turns
      (world.opened harness suite test).2 = none) : NeverEnds world
  | performing {fixture : Fixture ν σ} {made : World Q ν σ} (fresh : fixture = factory (world.opened harness suite test).1)
      (prepared : fixture.prepare.run turns (world.opened harness suite test).2 = some ((), made))
      (stuck : (harness.perform test fixture).run.run turns made = none) : NeverEnds world
  | tearingDown {fixture : Fixture ν σ} {made performed : World Q ν σ} {outcome : Except (Stop Failure) Unit}
      (fresh : fixture = factory (world.opened harness suite test).1)
      (prepared : fixture.prepare.run turns (world.opened harness suite test).2 = some ((), made))
      (performs : (harness.perform test fixture).run.run turns made = some (outcome, performed))
      (stuck : fixture.cleanup.run turns performed = none ∨ ∃ cleaned,
        fixture.cleanup.run turns performed = some (.ok (), cleaned) ∧ fixture.tearDown.run.run turns cleaned = none) :
      NeverEnds world

end

section

variable {turns : Nat} {harness : Harness} {suite : Suite ν σ} {factory : CaseId → Fixture ν σ}
  {test : RegisteredTest ν σ} {fixture : Fixture ν σ} {world after : World Q ν σ}

theorem Diagnostics.Tidy.run {α : Type} {program : Program ν σ α} {value : α} (tidy : Tidy world.diagnostics)
    (ran : program.run turns world = some (value, after)) : Tidy after.diagnostics :=
  tidy.handles (Program.run_passes throughout_handles ran)

theorem tearDown_closes {tornDown : Except (Stop Failure) Unit} (tidy : Tidy world.diagnostics)
    (torn : (Harness.tearDown fixture).run.run turns world = some (tornDown, after)) :
    Closes turns fixture world (after.dropped fixture.case) := by
  rw [run_tearDown] at torn
  obtain ⟨⟨panic | ⟨⟩, cleaned⟩, cleans, rest⟩ := Option.bind_eq_some_iff.mp torn
  · cases rest
    exact .uncleaned cleans ((tidy.run cleans).dropped _)
  obtain ⟨⟨outcome, down⟩, tears, ended⟩ := Option.map_eq_some_iff.mp rest
  have downTidy := (tidy.run cleans).run tears
  rcases outcome with (failure | panic) | ⟨⟩
  · cases ended
    exact .finished cleans tears nofun (downTidy.replayed _)
  · cases ended
    exact .unfinished cleans tears (downTidy.dropped _)
  · cases ended
    exact .finished cleans tears nofun (downTidy.replayed _)

theorem execute_ends {record : TestRecord} (tidy : Tidy world.diagnostics)
    (ran : (harness.execute suite test factory).run turns world = some (record, after)) :
    Ends turns harness suite factory test world after ∧ Tidy after.diagnostics := by
  refine ⟨?_, tidy.run ran⟩
  rw [run_execute] at ran
  obtain ⟨⟨⟨⟩, made⟩, prepared, rest⟩ := Option.bind_eq_some_iff.mp ran
  obtain ⟨⟨outcome, performed⟩, performs, last⟩ := Option.bind_eq_some_iff.mp rest
  obtain ⟨⟨tornDown, closed⟩, torn, ended⟩ := Option.map_eq_some_iff.mp last
  cases ended
  have opens : (harness.caseFor suite test).run turns world =
      some ((world.opened harness suite test).1, (world.opened harness suite test).2) := run_caseFor world
  have performedTidy := ((tidy.run opens).run prepared).run performs
  exact .intro rfl prepared performs (tearDown_closes performedTidy torn)

theorem tearDown_stuck (stuck : (Harness.tearDown fixture).run.run turns world = none) :
    fixture.cleanup.run turns world = none ∨ ∃ cleaned,
      fixture.cleanup.run turns world = some (.ok (), cleaned) ∧ fixture.tearDown.run.run turns cleaned = none := by
  rw [run_tearDown] at stuck
  rcases cleans : fixture.cleanup.run turns world with _ | ⟨panic | ⟨⟩, cleaned⟩
  · exact .inl rfl
  · rw [cleans] at stuck
    cases stuck
  · rw [cleans] at stuck
    exact .inr ⟨cleaned, rfl, Option.map_eq_none_iff.mp stuck⟩

theorem execute_stuck (stuck : (harness.execute suite test factory).run turns world = none) :
    NeverEnds turns harness suite factory test world := by
  let fixture := factory (world.opened harness suite test).1
  rw [run_execute] at stuck
  simp only at stuck
  rcases prepared : fixture.prepare.run turns (world.opened harness suite test).2 with _ | ⟨⟨⟩, made⟩
  · exact .preparing prepared
  rw [prepared] at stuck
  simp only [Option.bind_some] at stuck
  rcases performs : (harness.perform test fixture).run.run turns made with _ | ⟨outcome, performed⟩
  · exact .performing rfl prepared performs
  rw [performs] at stuck
  exact .tearingDown rfl prepared performs (tearDown_stuck (Option.map_eq_none_iff.mp stuck))

theorem runTests_ends (turns : Nat) (harness : Harness) (suite : Suite ν σ) (factory : CaseId → Fixture ν σ)
    (tests : List (RegisteredTest ν σ)) (world : World Q ν σ) (tidy : Tidy world.diagnostics) :
    ((harness.runTests suite factory tests).run turns world).elim
      (OneHangs (fun test world _ => Ends turns harness suite factory test world)
        (NeverEnds turns harness suite factory) world tests)
      fun (records, after) =>
        InTurn (fun test world _ => Ends turns harness suite factory test world) world tests records after := by
  apply runTests_inTurn (fun world => Tidy world.diagnostics) _ _ tests world tidy
  · exact fun test world record after tidy executed => execute_ends tidy executed
  · exact fun test world _ stuck => execute_stuck stuck

end

/-- Of every test that is run the capture is released at the end, and what nobody asked for is written once if the hook
for the tear-down returns. That hook is called once unless the cleanup panics. A test does not end only if a hook or the
body does not finish. -/
theorem Bench.tests_end {β : Type} (front : Front) (memory : σ) (past : Program ν σ β) (pastTurns : Nat)
    (world : Bench ν σ) (reached : past.Meets pastTurns (Bench.fresh front memory) world) (turns : Nat)
    (harness : Harness) (suite : Suite ν σ) (factory : CaseId → Fixture ν σ) :
    (∀ name test, suite.get? name = some test →
      ((harness.runTest suite name factory).run turns world = none → NeverEnds turns harness suite factory test world) ∧
      ∀ answer after, (harness.runTest suite name factory).run turns world = some (answer, after) →
        (∃ record, answer = .ok record) ∧ Ends turns harness suite factory test world after) ∧
    ((harness.runSuite suite factory).run turns world = none →
      OneHangs (fun test world _ => Ends turns harness suite factory test world)
        (NeverEnds turns harness suite factory) world suite.tests) ∧
    ∀ report after, (harness.runSuite suite factory).run turns world = some (report, after) →
      InTurn (fun test world _ => Ends turns harness suite factory test world) world suite.tests report.records after := by
  have tidy : Tidy world.diagnostics :=
    Diagnostics.tidy_empty.handles (Program.meets_passes throughout_handles reached)
  have ended := runTests_ends turns harness suite factory suite.tests world tidy
  rw [run_runSuite]
  refine ⟨fun name test found => ?_, fun stuck => ?_, fun report after ran => ?_⟩
  · rw [run_runTest found]
    constructor
    · exact fun stuck => execute_stuck (Option.map_eq_none_iff.mp stuck)
    · intro answer after ran
      obtain ⟨⟨record, last⟩, executed, same⟩ := Option.map_eq_some_iff.mp ran
      cases same
      exact ⟨⟨record, rfl⟩, (execute_ends tidy executed).1⟩
  · rwa [Option.map_eq_none_iff.mp stuck] at ended
  · obtain ⟨⟨records, last⟩, finished, same⟩ := Option.map_eq_some_iff.mp ran
    cases same
    rwa [finished] at ended

/-- A test that writes a diagnostic and does not ask for it. -/
def writingTest : RegisteredTest Unit (List Mark) where
  name := "test_writes"
  overrides := {}
  policy := { leakCheck := false }
  body := fun fixture => do
    let state ← ExceptT.lift fixture.case.read
    Task.ask (.diagnostics (.hook state.capture))
    Task.ask (.diagnostics (.write "lost\n"))
  inherited := false

def writingSuite : Suite Unit (List Mark) := { markedSuite with tests := [writingTest] }

theorem written_after_tear_down : ∃ record, ∃ after : Bench Unit (List Mark),
    (quietHarness.runTest writingSuite "test_writes" markedFixture).run 9 (Bench.fresh .direct []) =
      some (.ok record, after) ∧
    record.status = .passed ∧ after.memory.reverse = [.setUp, .cleanup, .tearDown] ∧
    after.diagnostics.console = "lost\n" ∧ after.diagnostics.sinks = [] ∧
    writingSuite.get? "test_writes" = some writingTest ∧
    Ends 9 quietHarness writingSuite markedFixture writingTest (Bench.fresh .direct []) after := by
  have runs : ((quietHarness.runTest writingSuite "test_writes" markedFixture).run 9 (Bench.fresh .direct [])).map
      (fun (answer, after) => (answer.toOption.map TestRecord.status, after.memory.reverse, after.diagnostics.console,
        after.diagnostics.sinks)) =
      some (some .passed, [.setUp, .cleanup, .tearDown], "lost\n", []) := by decide +kernel
  obtain ⟨⟨answer, after⟩, ran, facts⟩ := Option.map_eq_some_iff.mp runs
  obtain ⟨status, marks, console, sinks⟩ := by simpa only [Prod.mk.injEq] using facts
  cases answer with
  | error => cases status
  | ok record =>
    have reached : (pure () : Program Unit (List Mark) Unit).Meets 0 (Bench.fresh .direct []) (Bench.fresh .direct []) :=
      Run.Meets.here
    have found : writingSuite.get? "test_writes" = some writingTest := rfl
    obtain ⟨single, -⟩ := Bench.tests_end .direct [] (pure ()) 0 _ reached 9 quietHarness writingSuite markedFixture
    obtain ⟨-, ends⟩ := (single "test_writes" writingTest found).2 (.ok record) after ran
    exact ⟨record, after, ran, Option.some.inj status, marks, console, sinks, found, ends⟩

/-- The cleanup panics, and neither is the hook for the tear-down called nor the diagnostic written. -/
def panickingFixture (case : CaseId) : Fixture Unit (List Mark) :=
  { markedFixture case with cleanup := pure (.error ⟨some "boom"⟩) }

theorem lost_after_cleanup_panics : ∃ record, ∃ after : Bench Unit (List Mark),
    (quietHarness.runTest writingSuite "test_writes" panickingFixture).run 9 (Bench.fresh .direct []) =
      some (.ok record, after) ∧
    record.status = .panicked ∧ Mark.tearDown ∉ after.memory ∧ after.diagnostics.console = "" ∧
    ∃ outcome, ∃ performed : Bench Unit (List Mark),
      (quietHarness.perform writingTest (panickingFixture ⟨0⟩)).run.run 9
        ((Bench.fresh .direct []).opened quietHarness writingSuite writingTest).2 = some (outcome, performed) ∧
      performed.diagnostics.unconsumed (performed.case ⟨0⟩).capture = "lost\n" := by
  have performs : ((quietHarness.perform writingTest (panickingFixture ⟨0⟩)).run.run 9
      ((Bench.fresh .direct []).opened quietHarness writingSuite writingTest).2).map
      (fun (_, performed) => performed.diagnostics.unconsumed (performed.case ⟨0⟩).capture) = some "lost\n" := by
    decide +kernel
  obtain ⟨⟨outcome, performed⟩, performs, left⟩ := Option.map_eq_some_iff.mp performs
  have runs : ((quietHarness.runTest writingSuite "test_writes" panickingFixture).run 9 (Bench.fresh .direct [])).map
      (fun (answer, after) => (answer.toOption.map TestRecord.status, decide (Mark.tearDown ∉ after.memory),
        after.diagnostics.console)) = some (some .panicked, true, "") := by decide +kernel
  obtain ⟨⟨answer, after⟩, ran, facts⟩ := Option.map_eq_some_iff.mp runs
  obtain ⟨status, unmarked, console⟩ := by simpa only [Prod.mk.injEq] using facts
  cases answer with
  | error => cases status
  | ok record =>
    exact ⟨record, after, ran, Option.some.inj status, of_decide_eq_true unmarked, console, outcome, performed, performs,
      left⟩

end Testbench
