import Testbench.Suite

/-!
Contracts: tests that any blocking operation with a timeout has to pass. One kind of operation answers
nothing when its time is over, the other fails with its timeout.
-/

namespace Testbench

/-- How a failed contract shows a value it should not have been given. -/
class Shown (ν : Type) where
  shown : ν → String

export Shown (shown)

instance : Shown String := ⟨Text.quoted⟩

instance {ν : Type} [Shown ν] : Shown (Option ν) where
  shown
    | none => "None"
    | some value => "Some(" ++ shown value ++ ")"

namespace Contract

variable {ν σ : Type}

def shortTimeout : Nat := Duration.ofMillis 10

def outerTimeout : Nat := Duration.ofMillis 1

def innerTimeout : Nat := Duration.ofSeconds 1

/-- Delays from the first on, up to the second. -/
structure DelayRange where
  least : Nat
  limit : Nat

def waitDelay : DelayRange := ⟨Duration.ofMillis 9, Duration.ofMillis 20⟩

def getDelay : DelayRange := ⟨Duration.ofMillis 9, Duration.ofMillis 110⟩

def DelayRange.check (range : DelayRange) (delay : Nat) : Except Failure Unit :=
  if range.least ≤ delay ∧ delay < range.limit then .ok ()
  else .error (.assertion ("delay " ++ Duration.text delay ++ " outside [" ++ Duration.text range.least ++ ", " ++
    Duration.text range.limit ++ ")"))

def mustRaise {α : Type} [Shown α] (value : α) : Failure :=
  .assertion ("must raise Timeout (returned " ++ shown value ++ ")")

/-- A timeout around the operation is seen as itself. -/
def outerTimeoutIsNotLost {α : Type} [Shown α] (operation : WaitLimit → Task ν σ Failure α) :
    Task ν σ Failure Unit := do
  let timeout ← Task.ask (.newTimeout (some outerTimeout))
  let answer ← timeout.during (operation (.after innerTimeout)).outcome
  match answer with
  | .ok value => .fail (mustRaise value)
  | .error (.failed failure) => if failure.raisedBy timeout then pure () else .fail failure
  | .error (.panicked panic) => .panic panic

def waitOuterTimeoutIsNotLost [Shown ν] : TestBody ν σ := fun fixture => outerTimeoutIsNotLost fixture.wait

def getOuterTimeoutIsNotLost [Shown ν] : TestBody ν σ := fun fixture => outerTimeoutIsNotLost fixture.get

def returnsNoneAfterTimeout [Shown ν] : TestBody ν σ := fun fixture => do
  let start ← Task.ask .clock
  let answer ← fixture.wait (.after shortTimeout)
  let stop ← Task.ask .clock
  Task.ofExcept (waitDelay.check (stop - start))
  match answer with
  | none => pure ()
  | some value => .fail (.assertion ("expected None after timeout, got " ++ shown value))

/-- The operation fails as it should, and does so on time. -/
def expectRaised [Shown ν] (fixture : Fixture ν σ) (limit : WaitLimit) (expected : Failure → Bool) :
    Task ν σ Failure Unit := do
  let start ← Task.ask .clock
  match ← (fixture.get limit).outcome with
  | .ok value => .fail (mustRaise value)
  | .error (.panicked panic) => .panic panic
  | .error (.failed failure) =>
    let stop ← Task.ask .clock
    if expected failure then
      Task.ofExcept (getDelay.check (stop - start))
      Task.orPanic fixture.cleanup
    else .fail failure

def raisesTimeoutNumber [Shown ν] : TestBody ν σ := fun fixture =>
  expectRaised fixture (.after shortTimeout) Failure.isTimeout

/-- A timeout of the caller's is raised as itself. -/
def raisesTimeoutItself [Shown ν] : TestBody ν σ := fun fixture => do
  let timeout ← Task.ask (.newTimeout (some shortTimeout))
  expectRaised fixture (.under timeout) (·.raisedBy timeout)

/-- A substitute error is raised in the timeout's place. -/
def raisesSubstitute [Shown ν] : TestBody ν σ := fun fixture => do
  let exception ← Task.ask (.newError "expected error")
  let made ← Task.ask (.newTimeout (some shortTimeout))
  let timeout := { made with exception := some exception }
  expectRaised fixture (.under timeout) fun failure => !failure.isTimeout && failure.raisedBy timeout

/-- The tests of an operation that answers nothing when its time is over. -/
def registerWait [Shown ν] (builder : SuiteBuilder ν σ) : SuiteBuilder ν σ :=
  (builder.register "test_outer_timeout_is_not_lost" {} waitOuterTimeoutIsNotLost).register
    "test_returns_none_after_timeout" {} returnsNoneAfterTimeout

/-- The tests of an operation that fails with its timeout. -/
def registerGet [Shown ν] (builder : SuiteBuilder ν σ) : SuiteBuilder ν σ :=
  (((builder.register "test_outer_timeout_is_not_lost" {} getOuterTimeoutIsNotLost).register
    "test_raises_timeout_number" {} raisesTimeoutNumber).register
    "test_raises_timeout_timeout" {} raisesTimeoutItself).register
    "test_raises_timeout_timeout_exc_customized" {} raisesSubstitute

end Contract

end Testbench
