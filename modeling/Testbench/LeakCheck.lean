import Testbench.Fixture

/-!
The leak check: a test is run again until a run leaves as many live resources as it found. Background
reclamation is off meanwhile, so that it cannot hide a leak or fake one.
-/

namespace Testbench

/-- Who reports live resources, in the terms of what the session runs in. -/
structure ResourceProbe (m : Type → Type u) where
  liveHandles : m Int
  setReclaim : Bool → m Unit
  collect : m Unit

namespace LeakCheck

def defaultLimit : Nat := 4

/-- A session makes room for a delta from each run before it starts, a word of eight bytes each, and the bytes
have to be counted by a signed word of 64 bits. -/
def largestLimit : Nat := (Nat.pow 2 63 - 1) / 8

/-- Live resources are counted by signed words of 64 bits, and so is the difference of two counts. -/
def delta? (before after : Int) : Option Int :=
  if -Int.pow 2 63 ≤ after - before ∧ after - before < Int.pow 2 63 then some (after - before) else none

variable {m : Type → Type u} [Monad m]

/-- Runs the body at most a number of times more, with the deltas seen so far. -/
def iterate (probe : ResourceProbe m) (body : m (Except (Stop Failure) Unit)) :
    Nat → List Int → m (Except (Stop Failure) (List Int))
  | 0, deltas => pure (.error (.failed (.growth deltas)))
  | runs + 1, deltas => do
    probe.collect
    let before ← probe.liveHandles
    match ← body with
    | .error stop => pure (.error stop)
    | .ok () =>
      match delta? before (← probe.liveHandles) with
      | none => pure (.error (.panicked .differenceOverflow))
      | some delta =>
        let deltas := deltas ++ [delta]
        if delta = 0 then pure (.ok deltas) else iterate probe body runs deltas

/-- Reclamation is off while the runs last, and both ends collect, however the runs end. -/
def supervise (probe : ResourceProbe m) (limit : Nat) (body : m (Except (Stop Failure) Unit)) :
    m (Except (Stop Failure) (List Int)) := do
  probe.setReclaim false
  probe.collect
  let outcome ← iterate probe body limit []
  probe.setReclaim true
  probe.collect
  pure outcome

/-- A whole session. One that there is no room for does not start. -/
def session (probe : ResourceProbe m) (limit : Nat) (body : m (Except (Stop Failure) Unit)) :
    m (Except (Stop Failure) (List Int)) :=
  if limit ≤ largestLimit then supervise probe limit body else pure (.error (.panicked .capacityOverflow))

/-- How a session shows itself before it runs. -/
def sessionText (limit : Nat) : String :=
  "LeakCheckSession \x7b deltas: " ++ Failure.deltasText [] ++ ", limit: " ++ toString limit ++ ", .. \x7d"

end LeakCheck

variable {ν σ : Type}

/-- The hub reports its armed timers and open handles. -/
def ResourceProbe.hub : ResourceProbe (Program ν σ) where
  liveHandles := .ask (.hub .liveHandles)
  setReclaim enabled := .ask (.hub (.setReclaim enabled))
  collect := .ask (.hub .collect)

/-- The fixture cleans up after each run that returned. On a hub that reports no resources the test is run
once, unchecked. -/
def checkLeaks (test : TestBody ν σ) : TestBody ν σ := fun fixture => do
  if ← Task.ask (.hub .hasProbe) then
    let body : Task ν σ Failure Unit := do
      match ← (test fixture).outcome with
      | .error (.panicked panic) => .panic panic
      | outcome =>
        Task.orPanic fixture.cleanup
        .resume outcome
    let _ ← ExceptT.mk (LeakCheck.session .hub LeakCheck.defaultLimit body.run)
  else
    test fixture

end Testbench
