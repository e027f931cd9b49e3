import Testbench.LeakCheck
import Testbench.Text.Characters
import Testbench.TimeGuard

/-!
Suites: the tests of a class with their policies. A suite can extend another; it then has its parent's
tests, under policies decided anew, and a test of the same name takes the place of the parent's.
-/

namespace Testbench

variable {ν σ : Type}

/-- The leak check is outside, so that a test that hangs is charged for it and not run again. -/
def instrument (policy : Policy) (test : TestBody ν σ) : TestBody ν σ :=
  let guarded := guardTime policy.timeout test
  if policy.leakCheck then checkLeaks guarded else guarded

/-- A policy that asks for nothing leaves a test as it is. -/
def Policy.instruments (policy : Policy) : Bool := policy.timeout.isSome || policy.leakCheck

structure PendingTest (ν σ : Type) where
  name : String
  overrides : Overrides
  body : TestBody ν σ
  /-- The body is the parent's. -/
  inherited : Bool := false

structure RegisteredTest (ν σ : Type) where
  name : String
  overrides : Overrides
  policy : Policy
  body : TestBody ν σ
  inherited : Bool

namespace RegisteredTest

def wrapped (test : RegisteredTest ν σ) : TestBody ν σ := instrument test.policy test.body

def isInstrumented (test : RegisteredTest ν σ) : Bool := test.policy.instruments

end RegisteredTest

structure Suite (ν σ : Type) where
  fileStem : String
  className : String
  /-- What classes that extend this one inherit. -/
  classPolicy : Policy
  switchExpected : SwitchExpected
  tests : List (RegisteredTest ν σ)

def Suite.get? (suite : Suite ν σ) (name : String) : Option (RegisteredTest ν σ) :=
  suite.tests.find? (·.name == name)

structure SuiteBuilder (ν σ : Type) where
  fileStem : String
  className : String
  inherited : Policy := {}
  overrides : Overrides := {}
  switchExpected : SwitchExpected := .unresolved
  tests : List (PendingTest ν σ) := []

namespace SuiteBuilder

/-- A class of its own, which inherits the defaults. -/
def new (fileStem className : String) : SuiteBuilder ν σ := { fileStem, className }

def extend (parent : Suite ν σ) (className : String) : SuiteBuilder ν σ where
  fileStem := parent.fileStem
  className := className
  inherited := parent.classPolicy
  switchExpected := parent.switchExpected
  tests := parent.tests.map fun test => ⟨test.name, test.overrides, test.body, true⟩

/-- A test of the same name is replaced where it stands. -/
def register (builder : SuiteBuilder ν σ) (name : String) (overrides : Overrides) (body : TestBody ν σ) :
    SuiteBuilder ν σ :=
  let pending : PendingTest ν σ := { name, overrides, body }
  if builder.tests.any (·.name == name) then
    { builder with tests := builder.tests.map fun test => if test.name == name then pending else test }
  else { builder with tests := builder.tests ++ [pending] }

/-- What can be said of a class, in any order; of two settings of one kind the later counts. -/
inductive Step (ν σ : Type) where
  /-- In place of what the class inherits. -/
  | inherit (policy : Policy)
  | fileStem (stem : String)
  /-- `none` means no limit. -/
  | timeout (limit : Option Nat)
  | leakCheck (enabled : Bool)
  | switchExpected (expected : SwitchExpected)
  | register (name : String) (overrides : Overrides) (body : TestBody ν σ)

def step (builder : SuiteBuilder ν σ) : Step ν σ → SuiteBuilder ν σ
  | .inherit policy => { builder with inherited := policy }
  | .fileStem stem => { builder with fileStem := stem }
  | .timeout limit => { builder with overrides := { builder.overrides with timeout := some limit } }
  | .leakCheck enabled => { builder with overrides := { builder.overrides with leakCheck := some enabled } }
  | .switchExpected expected => { builder with switchExpected := expected }
  | .register name overrides body => builder.register name overrides body

def steps (builder : SuiteBuilder ν σ) (steps : List (Step ν σ)) : SuiteBuilder ν σ := steps.foldl step builder

def badName (builder : SuiteBuilder ν σ) (name : String) : Failure :=
  .registration (builder.fileStem ++ "." ++ builder.className ++ ": " ++ Text.quoted name ++
    " is not a test name (expected \"test\" or a \"test_\" prefix)")

/-- Fails on the first name that is no test name. -/
def build (builder : SuiteBuilder ν σ) : Except Failure (Suite ν σ) :=
  match builder.tests.find? fun test => !isTestName test.name with
  | some test => .error (builder.badName test.name)
  | none => .ok {
      fileStem := builder.fileStem
      className := builder.className
      classPolicy := builder.overrides.apply builder.inherited
      switchExpected := builder.switchExpected
      tests := builder.tests.map fun test => {
        name := test.name
        overrides := test.overrides
        policy := .resolve builder.inherited builder.overrides test.overrides
        body := test.body
        inherited := test.inherited } }

end SuiteBuilder

end Testbench
