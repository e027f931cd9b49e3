import Testbench.Diagnostics.Capture
import Testbench.Registry

/-!
Where diagnostics go. The hooked captures form a stack, and a text goes into the newest of them, or to
the console when there is none. A capture can leave the stack from any place.
-/

namespace Testbench

structure CaptureId where
  index : Nat
deriving DecidableEq

structure Diagnostics where
  captures : Registry CaptureId Capture := .empty
  /-- How many captures were ever made. -/
  made : Nat := 0
  /-- The hooked captures, newest first. -/
  sinks : List CaptureId := []
  /-- What was written past all captures. -/
  console : String := ""
  /-- What the captures echoed to their writer. -/
  echoed : String := ""

namespace Diagnostics

/-- What can be asked of the diagnostics, with the type of the answer. -/
inductive Request : Type → Type where
  | write (text : String) : Request Unit
  | isCaptured : Request Bool
  | create (config : Config) (echo : EchoTarget) : Request CaptureId
  | hook (capture : CaptureId) : Request Unit
  | unhook (capture : CaptureId) : Request (Option String)
  | isHooked (capture : CaptureId) : Request Bool
  | recorded (capture : CaptureId) : Request (Option String)
  | take (capture : CaptureId) : Request (Option String)
  | drop (capture : CaptureId) : Request Unit
  /-- Hands what is left over to the console. -/
  | replay (capture : CaptureId) : Request Unit
  | assertNothing (capture : CaptureId) : Request (Except Failure Unit)
  | assertTraceback (capture : CaptureId) (kind : String) (value : Option String) : Request (Except Failure Unit)
  /-- `none` is the answer when nothing was checked. -/
  | assertMessage (capture : CaptureId) (message : String) : Request (Except Failure (Option Tier))
  /-- The report of a callback that tried to block, and perhaps a message after it. -/
  | assertBlocked (capture : CaptureId) (message : Option String) : Request (Except Failure Unit)

def capture (diagnostics : Diagnostics) (id : CaptureId) : Capture :=
  (diagnostics.captures.get? id).getD { config := {} }

def setCapture (diagnostics : Diagnostics) (id : CaptureId) (capture : Capture) : Diagnostics :=
  { diagnostics with captures := diagnostics.captures.set id capture }

def toConsole (diagnostics : Diagnostics) (text : String) : Diagnostics :=
  { diagnostics with console := diagnostics.console ++ text }

def write (diagnostics : Diagnostics) (text : String) : Diagnostics :=
  match diagnostics.sinks with
  | [] => diagnostics.toConsole text
  | newest :: _ =>
    let capture := diagnostics.capture newest
    match capture.state with
    | .hooked buffer => diagnostics.setCapture newest { capture with state := .hooked (buffer ++ text) }
    | _ => diagnostics

def create (diagnostics : Diagnostics) (config : Config) (echo : EchoTarget) : CaptureId × Diagnostics :=
  let id : CaptureId := ⟨diagnostics.made⟩
  (id, { diagnostics.setCapture id { config, echo } with made := diagnostics.made + 1 })

/-- Takes the capture off the stack, with the given state from now on. -/
private def release (diagnostics : Diagnostics) (id : CaptureId) (capture : Capture) : Diagnostics :=
  { diagnostics.setCapture id capture with sinks := diagnostics.sinks.erase id }

/-- Puts the capture on top of the stack with an empty buffer; what it held before is discarded. A verbose
capture is never hooked. -/
def hook (diagnostics : Diagnostics) (id : CaptureId) : Diagnostics :=
  let capture := diagnostics.capture id
  if capture.config.verbose then diagnostics
  else
    let released := diagnostics.release id { capture with state := .hooked "" }
    { released with sinks := id :: released.sinks }

/-- Takes the capture off the stack and freezes its text; without effect on one that is not hooked. -/
def unhook (diagnostics : Diagnostics) (id : CaptureId) : Diagnostics :=
  let capture := diagnostics.capture id
  if capture.config.verbose || !capture.isHooked then diagnostics
  else diagnostics.release id capture.freeze

/-- The capture is unhooked and its text, if any, handed over. -/
def take (diagnostics : Diagnostics) (id : CaptureId) : Option String × Diagnostics :=
  let diagnostics := diagnostics.unhook id
  let capture := diagnostics.capture id
  (capture.recorded?, diagnostics.setCapture id { capture with state := .unhooked })

/-- Takes the capture off the stack for good. -/
def drop (diagnostics : Diagnostics) (id : CaptureId) : Diagnostics :=
  diagnostics.release id { diagnostics.capture id with state := .unhooked }

def replay (diagnostics : Diagnostics) (id : CaptureId) : Diagnostics :=
  match diagnostics.take id with
  | (some text, diagnostics) => diagnostics.toConsole text
  | (none, diagnostics) => diagnostics

/-- Echoes a consumed piece if the capture was made for debugging. -/
def echoPiece (diagnostics : Diagnostics) (capture : Capture) (piece : List Char) : Diagnostics :=
  if capture.config.debug then
    match capture.echo with
    | .console => diagnostics.toConsole (Consumed.echo piece)
    | .writer => { diagnostics with echoed := diagnostics.echoed ++ Consumed.echo piece }
  else diagnostics

/-- Consumes a piece of the text of a capture that is not hooked, or leaves everything as it is. -/
def consume (diagnostics : Diagnostics) (id : CaptureId) (text : String)
    (match? : String → Except Failure (Consumed α)) : Except Failure α × Diagnostics :=
  match match? text with
  | .error failure => (.error failure, diagnostics)
  | .ok consumed =>
    let capture := diagnostics.capture id
    let consumedFrom := diagnostics.setCapture id { capture with state := .captured (String.ofList consumed.rest) }
    (.ok consumed.answer, consumedFrom.echoPiece capture consumed.piece)

def assertNothing (diagnostics : Diagnostics) (id : CaptureId) : Except Failure Unit × Diagnostics :=
  if (diagnostics.capture id).config.verbose then (.ok (), diagnostics)
  else
    let diagnostics := diagnostics.unhook id
    match (diagnostics.capture id).recorded? with
    | none => (.error (.mismatch "diagnostics were never captured" "" ""), diagnostics)
    | some "" => (.ok (), diagnostics)
    | some text => (.error (.mismatch "expected no diagnostics" "" text), diagnostics)

def assertTraceback (diagnostics : Diagnostics) (id : CaptureId) (kind : String) (value : Option String) :
    Except Failure Unit × Diagnostics :=
  if (diagnostics.capture id).config.verbose then (.ok (), diagnostics)
  else
    let diagnostics := diagnostics.unhook id
    match (diagnostics.capture id).recorded? with
    | none => (.error (.mismatch "no diagnostics were captured" Traceback.shape ""), diagnostics)
    | some text => diagnostics.consume id text (Consumed.traceback kind value)

/-- A capture that recorded nothing is matched like an empty text. -/
def assertMessage (diagnostics : Diagnostics) (id : CaptureId) (message : String) :
    Except Failure (Option Tier) × Diagnostics :=
  if (diagnostics.capture id).config.verbose then (.ok none, diagnostics)
  else
    let diagnostics := diagnostics.unhook id
    let text := (diagnostics.capture id).recorded?.getD ""
    let (answer, diagnostics) := diagnostics.consume id text (Consumed.message message)
    (answer.map some, diagnostics)

section

variable {diagnostics : Diagnostics} {id : CaptureId} {text : String}

private theorem capture_echoPiece (capture : Capture) (piece : List Char) :
    (diagnostics.echoPiece capture piece).capture id = diagnostics.capture id := by
  unfold echoPiece
  split
  · split <;> rfl
  · rfl

/-- A piece that is consumed leaves what is around it recorded, and the capture otherwise as it was. -/
private theorem consume_ok (diagnostics : Diagnostics) (id : CaptureId) {match? : String → Except Failure (Consumed α)}
    {consumed : Consumed α} (matched : match? text = .ok consumed) :
    ∃ after, diagnostics.consume id text match? = (.ok consumed.answer, after) ∧
      after.capture id = { diagnostics.capture id with state := .captured (String.ofList consumed.rest) } := by
  simp only [consume, matched]
  refine ⟨_, rfl, ?_⟩
  rw [capture_echoPiece, capture, setCapture, Registry.get?_set_self]
  rfl

theorem assertTraceback_ok {kind : String} {value : Option String} {consumed : Consumed Unit}
    (quiet : (diagnostics.capture id).config.verbose = false)
    (recorded : ((diagnostics.unhook id).capture id).recorded? = some text)
    (matched : Consumed.traceback kind value text = .ok consumed) :
    ∃ after, diagnostics.assertTraceback id kind value = (.ok (), after) ∧ after.capture id =
      { (diagnostics.unhook id).capture id with state := .captured (String.ofList consumed.rest) } := by
  simp only [assertTraceback, quiet, recorded]
  exact consume_ok _ id matched

theorem assertMessage_ok {message : String} {consumed : Consumed Tier}
    (quiet : (diagnostics.capture id).config.verbose = false)
    (recorded : ((diagnostics.unhook id).capture id).recorded? = some text)
    (matched : Consumed.message message text = .ok consumed) :
    ∃ after, diagnostics.assertMessage id message = (.ok (some consumed.answer), after) ∧ after.capture id =
      { (diagnostics.unhook id).capture id with state := .captured (String.ofList consumed.rest) } := by
  obtain ⟨after, answered, capture⟩ := consume_ok (diagnostics.unhook id) id matched
  refine ⟨after, ?_, capture⟩
  simp only [assertMessage, quiet, recorded]
  rw [Option.getD_some, answered]
  rfl

/-- A text that is not matched stays recorded: the capture is unhooked, and nothing else happens to it. -/
theorem assertTraceback_error {kind : String} {value : Option String} {failure : Failure}
    (quiet : (diagnostics.capture id).config.verbose = false)
    (recorded : ((diagnostics.unhook id).capture id).recorded? = some text)
    (refused : Consumed.traceback kind value text = .error failure) :
    diagnostics.assertTraceback id kind value = (.error failure, diagnostics.unhook id) := by
  simp only [assertTraceback, quiet, recorded, consume, refused]
  rfl

theorem assertMessage_error {message : String} {failure : Failure}
    (quiet : (diagnostics.capture id).config.verbose = false)
    (recorded : ((diagnostics.unhook id).capture id).recorded? = some text)
    (refused : Consumed.message message text = .error failure) :
    diagnostics.assertMessage id message = (.error failure, diagnostics.unhook id) := by
  simp only [assertMessage, quiet, recorded, Option.getD_some, consume, refused]
  rfl

end

def assertBlocked (diagnostics : Diagnostics) (id : CaptureId) (message : Option String) :
    Except Failure Unit × Diagnostics :=
  match diagnostics.assertTraceback id HubError.blockingInCallback.kindName (some HubError.blockingText) with
  | (.error failure, diagnostics) => (.error failure, diagnostics)
  | (.ok (), diagnostics) =>
    match message with
    | none => (.ok (), diagnostics)
    | some message =>
      let (answer, diagnostics) := diagnostics.assertMessage id message
      (answer.map fun _ => (), diagnostics)

def handle (diagnostics : Diagnostics) : Request α → α × Diagnostics
  | .write text => ((), diagnostics.write text)
  | .isCaptured => (!diagnostics.sinks.isEmpty, diagnostics)
  | .create config echo => diagnostics.create config echo
  | .hook id => ((), diagnostics.hook id)
  | .unhook id =>
    let unhooked := diagnostics.unhook id
    ((unhooked.capture id).recorded?, unhooked)
  | .isHooked id => ((diagnostics.capture id).isHooked, diagnostics)
  | .recorded id => ((diagnostics.capture id).recorded?, diagnostics)
  | .take id => diagnostics.take id
  | .drop id => ((), diagnostics.drop id)
  | .replay id => ((), diagnostics.replay id)
  | .assertNothing id => diagnostics.assertNothing id
  | .assertTraceback id kind value => diagnostics.assertTraceback id kind value
  | .assertMessage id message => diagnostics.assertMessage id message
  | .assertBlocked id message => diagnostics.assertBlocked id message

end Diagnostics

end Testbench
