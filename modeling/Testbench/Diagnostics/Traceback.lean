import Testbench.Diagnostics.Pattern
import Testbench.Text.Characters

/-!
Reports shaped like a traceback: an optional header with indented frames, and a line that names a kind
of error and its value. They are written when a callback fails, and looked for in what was captured.
-/

namespace Testbench.Traceback

def header : String := "Traceback (most recent call last):\n"

/-- A report. Without frames there is no header. -/
def format (frames : List String) (kind value : String) : String :=
  (if frames.isEmpty then "" else header ++ "".intercalate (frames.map fun frame => "  " ++ frame ++ "\n")) ++
    kind ++ ": " ++ value ++ "\n"

/-- What a hub reports of a callback that failed. -/
def ofCallback (label kind value : String) : String :=
  format ["File \"<hub>\", in " ++ label] kind value ++ label ++ " failed with " ++ kind ++ "\n\n"

def frame : Pattern := .seq (.oneOrMore (.char ' ')) (.seq .restOfLine .newline)

/-- Everything before the kind line. -/
def preamble : Pattern :=
  .seq .lineStart (.seq (.optional (.seq (.literal header.toList) (.oneOrMore frame))) .lineStart)

def word : Pattern := .oneOrMore (.one Text.isWordChar)

/-- A name made of words with dots between them. -/
def kindName : Pattern := .seq word (.many true (.seq (.char '.') word))

/-- The parts of a report: preamble, kind, colon, value. -/
def parts : List Pattern := [preamble, kindName, .literal ": ".toList, .seq .restOfLine .lineEnd]

/-- The parts written out, as a failed search shows them. -/
def shape : String :=
  "(?m)^(?:Traceback \\(most recent call last\\):\\n(?: +[^\\n]*\\n)+)?^(?P<kind>\\w+(?:\\.\\w+)*): (?P<value>[^\\n]*)$"

/-- A report found in a text: what is before it, the report with the newline that ends it, and what is after
it. -/
structure Found where
  kind : List Char
  value : List Char
  before : List Char
  consumed : List Char
  after : List Char

private def upTo (start stop : Cursor) : List Char := start.rest.take (stop.offset - start.offset)

def find? (text : List Char) : Option Found :=
  match Pattern.search parts text with
  | some (start, [beforeKind, afterKind, beforeValue, stop]) =>
    let (newline, after) := match stop.rest with
      | '\n' :: after => (['\n'], after)
      | after => ([], after)
    some {
      kind := upTo beforeKind afterKind
      value := upTo beforeValue stop
      before := text.take start.offset
      consumed := upTo start stop ++ newline
      after }
  | _ => none

/-- A kind is asked for by its full name or by the last of its words. -/
def kindMatches (found asked : List Char) : Bool :=
  found == asked || (found.reverse.takeWhile (· ≠ '.')).reverse == asked

end Testbench.Traceback
