import Testbench.LeakCheck

/-!
A leak check rehearsed away from any hub: the probe answers from a script, each run of the body ends as the
script says, and what the session asks for is noted.
-/

namespace Testbench.LeakCheck

inductive Call where
  | setReclaim (enabled : Bool)
  | collect
  | liveHandles (answer : Int)
  | body
deriving DecidableEq

structure Script where
  /-- What the probe answers, sample by sample. -/
  sample : Nat → Int
  /-- How the body ends, run by run. -/
  outcome : Nat → Except (Stop Failure) Unit

structure Rehearsal where
  sampled : Nat := 0
  ran : Nat := 0
  /-- Latest first. -/
  calls : List Call := []
deriving DecidableEq

namespace Script

private def note (call : Call) : StateM Rehearsal Unit :=
  modify fun rehearsal => { rehearsal with calls := call :: rehearsal.calls }

def probe (script : Script) : ResourceProbe (StateM Rehearsal) where
  liveHandles := do
    let answer := script.sample (← get).sampled
    modify fun rehearsal => { rehearsal with sampled := rehearsal.sampled + 1 }
    note (.liveHandles answer)
    return answer
  setReclaim enabled := note (.setReclaim enabled)
  collect := note .collect

def body (script : Script) : StateM Rehearsal (Except (Stop Failure) Unit) := do
  let outcome := script.outcome (← get).ran
  modify fun rehearsal => { rehearsal with ran := rehearsal.ran + 1 }
  note .body
  return outcome

/-- The outcome of a whole session, and the calls in the order they were made. -/
def rehearse (script : Script) (limit : Nat) : Except (Stop Failure) (List Int) × List Call :=
  let (outcome, rehearsal) := (session script.probe limit script.body).run {}
  (outcome, rehearsal.calls.reverse)

end Script

end Testbench.LeakCheck
