import Testbench.Config
import Testbench.Diagnostics.Tier
import Testbench.Diagnostics.Traceback

/-!
A capture holds diagnostics for one test and is matched piece by piece: an assertion that succeeds takes
what it matched out of the recorded text, one that fails leaves the text as it was.
-/

namespace Testbench

/-- Where a capture echoes what was consumed. -/
inductive EchoTarget where
  | console
  | writer
deriving DecidableEq

inductive CaptureState where
  | unhooked
  /-- Diagnostics go into the buffer. -/
  | hooked (buffer : String)
  /-- The text is frozen. -/
  | captured (text : String)
deriving DecidableEq

structure Capture where
  config : Config
  state : CaptureState := .unhooked
  echo : EchoTarget := .console
deriving DecidableEq

namespace Capture

def isHooked (capture : Capture) : Bool :=
  match capture.state with
  | .hooked _ => true
  | _ => false

/-- The text that was captured and is not consumed yet. -/
def recorded? (capture : Capture) : Option String :=
  match capture.state with
  | .captured text => some text
  | _ => none

/-- The buffer becomes the recorded text. A capture that is not hooked stays as it is. -/
def freeze (capture : Capture) : Capture :=
  match capture.state with
  | .hooked buffer => { capture with state := .captured buffer }
  | _ => capture

end Capture

/-- A piece taken out of a text, and what is left of it. -/
structure Consumed (α : Type) where
  answer : α
  piece : List Char
  rest : List Char

namespace Consumed

/-- Takes a report out of the text wherever it stands. Only the first report is considered. -/
def traceback (kind : String) (value : Option String) (text : String) : Except Failure (Consumed Unit) :=
  match Traceback.find? text.toList with
  | none => .error (.mismatch "cannot find pattern in captured diagnostics" Traceback.shape text)
  | some found =>
    if Traceback.kindMatches found.kind kind.toList then
      match value.filter (·.toList ≠ found.value) with
      | none => .ok ⟨(), found.consumed, found.before ++ found.after⟩
      | some value => .error (.mismatch
          ("unexpected error value " ++ Text.quoted (String.ofList found.value) ++
            " (expected " ++ Text.quoted value ++ ")") value text)
    else .error (.mismatch
      ("unexpected error kind " ++ Text.quoted (String.ofList found.kind) ++
        " (expected " ++ Text.quoted kind ++ ")") kind text)

/-- Takes a message off the head of the text. Every message has a pattern here; one of many thousand words, whose
pattern would grow too large to be compiled, is not told apart. -/
def message (message text : String) : Except Failure (Consumed Tier) :=
  match Tier.match? message.toList text.toList with
  | none => .error (.mismatch (Text.quoted message ++ " did not match") message text)
  | some (tier, stop) => .ok ⟨tier, text.toList.take stop.offset, stop.rest⟩

/-- The lines of a piece, a carriage return in front of a newline not being part of the line. -/
def lines (piece : List Char) : List (List Char) :=
  let parts := piece.splitOn '\n'
  let closed := parts.dropLast.map fun line =>
    match line.reverse with
    | '\r' :: line => line.reverse
    | _ => line
  closed ++ (parts.getLast?.toList.filter (· ≠ []))

/-- How a consumed piece is echoed: every line marked. -/
def echo (piece : List Char) : String :=
  "".intercalate ((lines piece).map fun line => "#ATE#: " ++ String.ofList line ++ "\n")

end Consumed

end Testbench
