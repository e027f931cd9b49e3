import Testbench.Error

/-!
Timeouts with identity. Copies of a timeout are the same timeout: they share its number, and with it the
timer that is armed for it. The number is what tells nested timeouts apart.
-/

namespace Testbench

structure Timeout where
  id : Nat
  /-- Without a duration it never fires. -/
  after : Option Nat
  message : Option String := none
  /-- Raised in place of the timeout's own error. -/
  exception : Option SharedError := none
deriving DecidableEq

namespace Timeout

def elapsed (timeout : Timeout) : Elapsed := ⟨timeout.id, timeout.after, timeout.message⟩

/-- What it raises when it fires. -/
def error (timeout : Timeout) : HubError :=
  match timeout.exception with
  | none => .timeout timeout.elapsed
  | some exception => .raised exception

/-- The error is this timeout's own, not a substitute. -/
def elapsedIn (timeout : Timeout) : HubError → Bool
  | .timeout elapsed => elapsed.id == timeout.id
  | _ => false

/-- The error is what this timeout raises. A substitute is recognised by identity. -/
def raisedBy (timeout : Timeout) (error : HubError) : Bool :=
  match error, timeout.exception with
  | .timeout elapsed, none => elapsed.id == timeout.id
  | .raised error, some exception => error.same exception
  | _, _ => false

end Timeout

/-- How long an operation may block. -/
inductive WaitLimit where
  | never
  | after (duration : Nat)
  /-- Under a timeout of the caller's, which keeps its identity. -/
  | under (timeout : Timeout)
deriving DecidableEq

/-- The timeout is what the failure came from. -/
def Failure.raisedBy (failure : Failure) (timeout : Timeout) : Bool :=
  failure.hubError?.any timeout.raisedBy

end Testbench
