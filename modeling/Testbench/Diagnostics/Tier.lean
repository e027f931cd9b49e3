import Testbench.Diagnostics.Pattern
import Testbench.Text.Characters

/-!
The three ways a message can stand at the head of captured text, tried in order: verbatim as a
paragraph, by its words in order within one paragraph, and, for a message that ends in an ellipsis, by
its words followed by a few indented lines.
-/

namespace Testbench

inductive Tier where
  | exact
  | words
  | ellipsis
deriving DecidableEq

namespace Tier

def name : Tier → String
  | .exact => "exact"
  | .words => "words"
  | .ellipsis => "ellipsis"

/-- Text within one paragraph, as little as possible: single newlines, never an empty line. -/
def gap : Pattern := .many false (.either .notNewline (.seq .newline .notNewline))

/-- A newline that ends the text, or an empty line. -/
def paragraphEnd : Pattern := .seq .newline (.either .newline .textEnd)

/-- Words in order, with gaps between them. -/
def inOrder : List (List Char) → Pattern
  | [] => .empty
  | [word] => .literal word
  | word :: rest => .seq (.literal word) (.seq gap (inOrder rest))

/-- Two to five indented lines and an empty one. -/
def indentedTail : Pattern :=
  .seq (.between (.seq .newline (.seq (.oneOrMore (.char ' ')) .restOfLine)) 2 5) (.seq .newline .newline)

/-- The message without the newlines that end it. -/
def trimNewlines (message : List Char) : List Char :=
  (message.reverse.dropWhile (· == '\n')).reverse

/-- The message without the ellipsis it ends in. -/
def beforeEllipsis? (message : List Char) : Option (List Char) :=
  match message.reverse with
  | '.' :: '.' :: '.' :: head => some head.reverse
  | _ => none

/-- The tiers a message can be matched in, in the order they are tried. -/
def candidates (message : List Char) : List (Tier × Pattern) :=
  let message := trimNewlines message
  let words := Text.words message
  [(.exact, .seq (.literal message) paragraphEnd)] ++
  (if words.isEmpty then [] else [(.words, .seq (inOrder words) (.seq gap paragraphEnd))]) ++
  (match beforeEllipsis? message with
    | some head => [(.ellipsis, .seq (inOrder (Text.words head)) (.seq .restOfLine indentedTail))]
    | none => [])

/-- The first tier in which the message stands at the head of the text, and where it ends. -/
def match? (message text : List Char) : Option (Tier × Cursor) :=
  (candidates message).findSome? fun (tier, pattern) => (pattern.leading text).map (tier, ·)

end Tier

end Testbench
