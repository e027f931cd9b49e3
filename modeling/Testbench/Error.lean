import Testbench.Time

/-!
What can go wrong: the errors a hub interrupts a task with, the failures a test ends with, and
panics, which pass through everything until a harness catches them.
-/

namespace Testbench

/-- An error that is recognised by what it is, not by what it says. -/
structure SharedError where
  id : Nat
  message : String
deriving DecidableEq

def SharedError.same (a b : SharedError) : Bool := a.id == b.id

/-- What a timeout delivers when it fires; `id` is the timeout's. -/
structure Elapsed where
  id : Nat
  after : Option Nat
  message : Option String
deriving DecidableEq

def Elapsed.text (elapsed : Elapsed) : String :=
  (match elapsed.after with
    | some after => "timed out after " ++ Duration.text after
    | none => "timed out") ++
  (match elapsed.message with
    | some message => ": " ++ message
    | none => "")

/-- How a switch, or an operation that switches, ends when the task is not simply resumed. -/
inductive HubError where
  | timeout (elapsed : Elapsed)
  | raised (error : SharedError)
  | failed (kind message : String)
  /-- A callback tried to block. -/
  | blockingInCallback
  /-- Nothing is left that could resume the task. -/
  | loopExit
deriving DecidableEq

namespace HubError

def blockingText : String := "Impossible to call blocking function in the event loop callback"

def text : HubError → String
  | .timeout elapsed => elapsed.text
  | .raised error => error.message
  | .failed kind message => kind ++ ": " ++ message
  | .blockingInCallback => blockingText
  | .loopExit => "This operation would block forever"

def isTimeout : HubError → Bool
  | .timeout _ => true
  | _ => false

/-- The name before the colon in a report of the error. -/
def kindName : HubError → String
  | .timeout _ => "Timeout"
  | .raised _ => "Error"
  | .failed kind _ => kind
  | .blockingInCallback => "AssertionError"
  | .loopExit => "LoopExit"

/-- The text after the colon in a report of the error. -/
def value : HubError → String
  | .failed _ message => message
  | error => error.text

end HubError

inductive FailureKind where
  | timeout
  | resourceGrowth
  | diagnosticMismatch
  | notImplemented
  | assertion
  | registration
  | config
  | hub
  | panicked
deriving DecidableEq

def FailureKind.name : FailureKind → String
  | .timeout => "timeout"
  | .resourceGrowth => "resource_growth"
  | .diagnosticMismatch => "diagnostic_mismatch"
  | .notImplemented => "not_implemented"
  | .assertion => "assertion"
  | .registration => "registration"
  | .config => "config"
  | .hub => "hub"
  | .panicked => "panicked"

/-- What a failure carries beside its message. -/
inductive FailureDetail where
  | none
  | hub (error : HubError)
  /-- One change of the live resources for each run. -/
  | deltas (deltas : List Int)
  | mismatch (expected actual : String)
deriving DecidableEq

/-- Why a test, or a part of the harness, failed. -/
structure Failure where
  kind : FailureKind
  message? : Option String := none
  detail : FailureDetail := .none
deriving DecidableEq

/-- Why a computation was abandoned. The payload need not be a text. -/
structure Panic where
  message : Option String
deriving DecidableEq

namespace Panic

def text (panic : Panic) : String := panic.message.getD "non-string panic payload"

def instantOverflow : Panic := ⟨some "overflow when adding duration to instant"⟩

def differenceOverflow : Panic := ⟨some "attempt to subtract with overflow"⟩

/-- More room was asked for than there can be. -/
def capacityOverflow : Panic := ⟨some "capacity overflow"⟩

end Panic

/-- How a task stops early. -/
inductive Stop (ε : Type) where
  | failed (error : ε)
  | panicked (panic : Panic)
deriving DecidableEq

namespace Failure

/-- Another message in the place of the failure's own; kind and detail stay. -/
def withMessage (failure : Failure) (message : String) : Failure := { failure with message? := some message }

def assertion (message : String) : Failure := withMessage { kind := .assertion } message

def notImplemented (message : String) : Failure := withMessage { kind := .notImplemented } message

def registration (message : String) : Failure := withMessage { kind := .registration } message

def config (message : String) : Failure := withMessage { kind := .config } message

def panicked (panic : Panic) : Failure := withMessage { kind := .panicked } panic.text

def hub (error : HubError) : Failure where
  kind := if error.isTimeout then .timeout else .hub
  message? := some error.text
  detail := .hub error

def deltasText (deltas : List Int) : String :=
  "[" ++ ", ".intercalate (deltas.map toString) ++ "]"

/-- The live resources never stopped changing. -/
def growth (deltas : List Int) : Failure where
  kind := .resourceGrowth
  message? := some ("live resource handles increased by " ++ deltasText deltas)
  detail := .deltas deltas

def mismatch (message expected actual : String) : Failure where
  kind := .diagnosticMismatch
  message? := some message
  detail := .mismatch expected actual

def isTimeout (failure : Failure) : Bool := failure.kind == .timeout

/-- The hub's error that the failure was made of. -/
def hubError? (failure : Failure) : Option HubError :=
  match failure.detail with
  | .hub error => some error
  | _ => none

/-- The whole failure as one text: kind, message, and what a mismatch compared. -/
def text (failure : Failure) : String :=
  failure.kind.name ++
  (match failure.message? with
    | some message => ": " ++ message
    | none => "") ++
  (match failure.detail with
    | .mismatch expected actual =>
      "\nexpected:\n" ++ expected ++ "\nactual:\n__________\n" ++ actual ++ "\n^^^^^^^^^^"
    | _ => "")

end Failure

end Testbench
