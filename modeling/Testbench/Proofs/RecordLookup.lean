import Mathlib.Data.List.Forall2
import Mathlib.Data.List.Induction
import Mathlib.Data.List.Nodup
import Testbench.Bench
import Testbench.Proofs.SuiteInheritance
import Testbench.Proofs.SuiteRuns

/-! Looking up the record of a test. A full name leads to its test and to no other. The name of a test does so as long as
it is not taken apart, for a record knows only what stands after the last dot: a name with a dot in it leads nowhere, and
what is after its dot may be taken for the name of another test. -/

namespace Testbench

variable {ν σ : Type}

def Suite.fullName (suite : Suite ν σ) (method : String) : String :=
  (⟨suite.fileStem, suite.className, method⟩ : TestId).fullName

section

variable {front back part name : List Char}

end

section

variable {suite : Suite ν σ} {report : Report}

end

variable {Q : Type 1} [TimerQueue (Action ν σ) Q]

/-- Two tests that pass. The name of the first ends in that of the second. -/
def dottedClass : SuiteBuilder.ClassSpec Unit Unit where
  name := "TestDots"
  steps := [.register "test_x.test" {} fun _ => pure (), .register "test" {} fun _ => pure ()]

def dottedBuilder : SuiteBuilder Unit Unit := (SuiteBuilder.new "dots" dottedClass.name).steps dottedClass.steps

def dottedSuite : Suite Unit Unit where
  fileStem := "dots"
  className := "TestDots"
  classPolicy := {}
  switchExpected := .unresolved
  tests := [⟨"test_x.test", {}, {}, fun _ => pure (), false⟩, ⟨"test", {}, {}, fun _ => pure (), false⟩]

theorem dottedBuilder_build : dottedBuilder.build = .ok dottedSuite := SuiteBuilder.build_ok_iff.mpr ⟨by decide, rfl⟩

/-- The name of the first test leads nowhere, and that of the second to the record of the first. -/
theorem dotted_name_misread : ∃ report, ∃ after : Bench Unit Unit, dottedBuilder.build = .ok dottedSuite ∧
    (quietHarness.runSuite dottedSuite fun case => { case }).run 9 (Bench.fresh .direct ()) = some (report, after) ∧
    dottedSuite.tests.map (·.name) = ["test_x.test", "test"] ∧
    report.records.map (·.test) = ["dots.TestDots.test_x.test", "dots.TestDots.test"] ∧
    (report.record? "test_x.test").map (·.test) = none ∧
    (report.record? "test").map (·.test) = some "dots.TestDots.test_x.test" := by
  have runs : ((quietHarness.runSuite dottedSuite fun case => { case }).run 9
      (Bench.fresh .direct () : Bench Unit Unit)).map (fun (report, _) => (report.records.map (·.test),
        (report.record? "test_x.test").map (·.test), (report.record? "test").map (·.test))) =
      some (["dots.TestDots.test_x.test", "dots.TestDots.test"], none, some "dots.TestDots.test_x.test") := by
    decide +kernel
  obtain ⟨⟨report, after⟩, ran, facts⟩ := Option.map_eq_some_iff.mp runs
  simp only [Prod.mk.injEq] at facts
  exact ⟨report, after, dottedBuilder_build, ran, rfl, facts⟩

end Testbench
