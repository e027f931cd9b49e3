import Testbench.TestCase
import Testbench.Timeout

/-!
What a task can ask of the bench, with the type of the answer. `ν` is the type of the values tasks hand to
each other, and `σ` that of the memory they share.
-/

namespace Testbench

/-- A timer that needs no code: it resumes the waiting task, or interrupts it. -/
inductive Signal where
  | wake
  | raise (error : HubError)
deriving DecidableEq

namespace Hub

/-- What can be asked of the hub without blocking. -/
inductive Request : Type → Type where
  /-- The instant the hub last looked at the clock. -/
  | now : Request Nat
  | updateNow : Request Unit
  | schedule (after : Nat) (signal : Signal) : Request (Except Panic Nat)
  /-- Whether the timer was armed. -/
  | cancel (timer : Nat) : Request Bool
  | isArmed (timer : Nat) : Request Bool
  | wake : Request Unit
  | switchCount : Request (Option Nat)
  /-- Whether the hub reports its live resources. -/
  | hasProbe : Request Bool
  | liveHandles : Request Int
  | setReclaim (enabled : Bool) : Request Unit
  | collect : Request Unit
  | openHandle : Request Unit
  | closeHandle : Request Unit

end Hub

structure EventId where
  index : Nat
deriving DecidableEq

/-- A flag tasks can wait on. -/
structure Event where
  isSet : Bool := false
  waiters : Nat := 0
deriving DecidableEq

def Event.text (event : Event) : String :=
  "Event \x7b set: " ++ toString event.isSet ++ ", waiters: " ++ toString event.waiters ++ ", .. \x7d"

structure ResultId where
  index : Nat
deriving DecidableEq

/-- A value, or an error in its place, that tasks can wait for. -/
structure AsyncResult (ν : Type) where
  value : Option (Except HubError ν) := none
  waiters : Nat := 0

def AsyncResult.isReady {ν : Type} (result : AsyncResult ν) : Bool := result.value.isSome

def AsyncResult.text {ν : Type} (result : AsyncResult ν) : String :=
  "AsyncResult \x7b ready: " ++ toString result.isReady ++ ", .. \x7d"

/-- How an event's wait ends when nothing interrupts it. -/
inductive Waited where
  | set
  | timedOut
deriving DecidableEq

inductive Request (ν σ : Type) : Type → Type 1 where
  | clock : Request ν σ Nat
  /-- Keeps the processor busy. -/
  | burn (nanos : Nat) : Request ν σ Unit
  | hub {α : Type} (request : Hub.Request α) : Request ν σ α
  /-- Gives control to the hub until the task is resumed. -/
  | switch : Request ν σ (Except (Stop HubError) Unit)
  | sleep (after : Nat) : Request ν σ (Except (Stop HubError) Unit)
  | newError (message : String) : Request ν σ SharedError
  | newTimeout (after : Option Nat) : Request ν σ Timeout
  | startTimeout (timeout : Timeout) : Request ν σ (Except Panic Unit)
  | cancelTimeout (timeout : Timeout) : Request ν σ Bool
  | isPending (timeout : Timeout) : Request ν σ Bool
  | newEvent : Request ν σ EventId
  | setEvent (event : EventId) : Request ν σ Unit
  | clearEvent (event : EventId) : Request ν σ Unit
  | readEvent (event : EventId) : Request ν σ Event
  | wait (event : EventId) (limit : WaitLimit) : Request ν σ (Except (Stop HubError) Waited)
  | newResult : Request ν σ ResultId
  | complete (result : ResultId) (value : Except HubError ν) : Request ν σ Unit
  | readResult (result : ResultId) : Request ν σ (AsyncResult ν)
  | get (result : ResultId) (limit : WaitLimit) : Request ν σ (Except (Stop HubError) ν)
  | diagnostics {α : Type} (request : Diagnostics.Request α) : Request ν σ α
  | newCase (id : TestId) (policy : Policy) (config : Config) : Request ν σ CaseId
  | readCase (case : CaseId) : Request ν σ TestCase
  /-- Looks at the clock and at the count of switches. -/
  | setUpCase (case : CaseId) : Request ν σ Unit
  | classifyCase (case : CaseId) (expected : SwitchExpected) : Request ν σ Unit
  | recall : Request ν σ σ
  | store (memory : σ) : Request ν σ Unit

end Testbench
