import Testbench.Program.Request

/-!
Programs: the code that runs on the bench, as a tree of requests and of what is done with each possible
answer. A callback is a program that is handed over to the hub.
-/

namespace Testbench

inductive Program (ν σ : Type) : Type → Type 1 where
  | pure {α : Type} (value : α) : Program ν σ α
  | request {α β : Type} (asked : Request ν σ β) (next : β → Program ν σ α) : Program ν σ α
  /-- Arms a timer that runs a callback. -/
  | call {α : Type} (after : Nat) (label : String) (callback : Program ν σ (Except (Stop HubError) Unit))
      (next : Except Panic Nat → Program ν σ α) : Program ν σ α

namespace Program

variable {ν σ α β : Type}

def bind (program : Program ν σ α) (next : α → Program ν σ β) : Program ν σ β :=
  match program with
  | .pure value => next value
  | .request asked rest => .request asked fun answer => (rest answer).bind next
  | .call after label callback rest => .call after label callback fun answer => (rest answer).bind next

instance : Monad (Program ν σ) where
  pure := .pure
  bind := bind

def ask (asked : Request ν σ α) : Program ν σ α := .request asked .pure

/-- Arms a timer that runs a callback. -/
def scheduleCall (after : Nat) (label : String) (callback : Program ν σ (Except (Stop HubError) Unit)) :
    Program ν σ (Except Panic Nat) := .call after label callback .pure

end Program

/-- A program that can stop early, by failing or by a panic. -/
abbrev Task (ν σ ε α : Type) := ExceptT (Stop ε) (Program ν σ) α

abbrev Callback (ν σ : Type) := Task ν σ HubError Unit

namespace Task

variable {ν σ ε α β : Type}

def ask (request : Request ν σ α) : Task ν σ ε α := ExceptT.lift (Program.ask request)

def attempt (request : Request ν σ (Except (Stop ε) α)) : Task ν σ ε α := ExceptT.mk (Program.ask request)

def orPanic (program : Program ν σ (Except Panic α)) : Task ν σ ε α :=
  ExceptT.mk do return (← program).mapError .panicked

/-- Other failures in the place of those of a task; a panic stays what it is. -/
def mapFailure {ε' : Type} (convert : ε → ε') (task : Task ν σ ε α) : Task ν σ ε' α :=
  ExceptT.mk do
    return (← task.run).mapError fun
      | .failed error => .failed (convert error)
      | .panicked panic => .panicked panic

def ofHub (task : Task ν σ HubError α) : Task ν σ Failure α := task.mapFailure .hub

def fail (error : ε) : Task ν σ ε α := throw (.failed error)

def panic (panic : Panic) : Task ν σ ε α := throw (.panicked panic)

def ofExcept (answer : Except ε α) : Task ν σ ε α := ExceptT.mk (pure (answer.mapError .failed))

/-- The outcome of a task as a value, so that the task going on cannot miss it. -/
def outcome {ε' : Type} (task : Task ν σ ε α) : Task ν σ ε' (Except (Stop ε) α) := ExceptT.lift task.run

/-- Goes on with an outcome that was held back. -/
def resume (outcome : Except (Stop ε) α) : Task ν σ ε α := ExceptT.mk (pure outcome)

/-- Runs the second program after the task however the task ends. -/
def andThen (task : Task ν σ ε α) (last : Program ν σ Unit) : Task ν σ ε α := ExceptT.mk do
  let outcome ← task.run
  last
  return outcome

end Task

end Testbench
