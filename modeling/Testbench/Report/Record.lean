import Testbench.Error
import Testbench.Policy
import Testbench.Report.Json
import Testbench.SwitchTable

/-!
What came of the tests of a suite: one record for each, written as one line of JSON.
-/

namespace Testbench

inductive TestStatus where
  | passed
  | failed
  | panicked
deriving DecidableEq

def TestStatus.name : TestStatus → String
  | .passed => "passed"
  | .failed => "failed"
  | .panicked => "panicked"

structure TestRecord where
  test : String
  failure : Option Failure
  /-- Everything from set-up to tear-down, in nanoseconds. -/
  duration : Nat
  /-- The switches since set-up, if the hub counts them. -/
  switches : Option Nat
  switchExpected : SwitchExpected
  policy : Policy

namespace TestRecord

def status (record : TestRecord) : TestStatus :=
  match record.failure with
  | none => .passed
  | some failure => if failure.kind = .panicked then .panicked else .failed

def passed (record : TestRecord) : Bool := record.failure.isNone

def schemaVersion : Nat := 1

/-- A duration in whole microseconds, as far as a word of 64 bits goes. -/
def micros (duration : Nat) : Nat := min (duration / 1000) (Nat.pow 2 64 - 1)

def timeoutJson : Option Nat → Json
  | none => .null
  | some limit => .object [("secs", .number (limit / nanosPerSecond)), ("nanos", .number (limit % nanosPerSecond))]

/-- What a test did not have, a failure or a count of switches, is left out. -/
def json (record : TestRecord) : Json := .object (
  [("v", .number schemaVersion), ("test", .string record.test), ("status", .string record.status.name)] ++
  (match record.failure with
    | none => []
    | some failure => [("error_kind", .string failure.kind.name), ("message", .string failure.text)]) ++
  [("duration_us", .number (micros record.duration))] ++
  (match record.switches with
    | none => []
    | some switches => [("switches", .number switches)]) ++
  [("switch_expected", .string record.switchExpected.name),
    ("policy", .object
      [("timeout", timeoutJson record.policy.timeout), ("leak_check", .bool record.policy.leakCheck)])])

def jsonLine (record : TestRecord) : String := record.json.text

/-- The part of the full name after the last dot, if there is a dot. -/
def method? (record : TestRecord) : Option (List Char) :=
  let name := record.test.toList
  if name.contains '.' then some (name.reverse.takeWhile (· ≠ '.')).reverse else none

end TestRecord

/-- The records of a run, in the order of the tests. -/
structure Report where
  records : List TestRecord

namespace Report

/-- The first record with this full name or this method name. -/
def record? (report : Report) (name : String) : Option TestRecord :=
  report.records.find? fun record => record.test == name || record.method? == some name.toList

def failed (report : Report) : List TestRecord := report.records.filter (!·.passed)

def allPassed (report : Report) : Bool := report.records.all (·.passed)

def assertAllPassed (report : Report) : Except Failure Unit :=
  match report.failed with
  | [] => .ok ()
  | failed => .error (.assertion (
      toString failed.length ++ " of " ++ toString report.records.length ++ " tests failed:\n" ++
      "\n".intercalate (failed.map fun record => record.test ++ ": " ++ (record.failure.elim "failed" Failure.text))))

def ndjson (report : Report) : String := String.join (report.records.map fun record => record.jsonLine ++ "\n")

end Report

end Testbench
