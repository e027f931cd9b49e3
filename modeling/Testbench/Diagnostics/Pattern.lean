import Std.Data.HashSet

/-!
Patterns of text. A pattern takes places in a text to the places where a match that starts there can
end, the preferred one first. A repetition is greedy or not; of two alternatives the first is
preferred. No place is listed twice by a repetition, which keeps long texts affordable.
-/

namespace Testbench

/-- A place in a text: how many characters are before it, whether it starts a line, and what follows. -/
structure Cursor where
  offset : Nat
  startsLine : Bool
  rest : List Char
deriving DecidableEq

namespace Cursor

def start (text : List Char) : Cursor := ⟨0, true, text⟩

/-- The place after a character. -/
def past (cursor : Cursor) (c : Char) (rest : List Char) : Cursor := ⟨cursor.offset + 1, c == '\n', rest⟩

end Cursor

inductive Pattern where
  | empty
  /-- One character of a class. -/
  | one (admits : Char → Bool)
  | lineStart
  /-- In front of a newline or at the end of the text. -/
  | lineEnd
  | textEnd
  | seq (first second : Pattern)
  | either (first second : Pattern)
  | many (greedy : Bool) (body : Pattern)

namespace Pattern

abbrev Places := Std.HashSet Nat

/-- Walks from a place along a step that only moves forward, and adds each place met for the first time to
those found, the latest first: before what follows it, or after it when the walk is greedy. -/
def walk (greedy : Bool) (step : Cursor → List Cursor) :
    Nat → List Cursor × Places → Cursor → List Cursor × Places
  | 0, state, _ => state
  | bound + 1, (found, seen), cursor =>
    if seen.contains cursor.offset then (found, seen)
    else
      let onward := (step cursor).filter fun next => cursor.offset < next.offset
      if greedy then
        let (found, seen) := onward.foldl (walk greedy step bound) (found, seen.insert cursor.offset)
        (cursor :: found, seen)
      else onward.foldl (walk greedy step bound) (cursor :: found, seen.insert cursor.offset)

/-- A walk from a place cannot be longer than the text after it. -/
def walkFrom (greedy : Bool) (step : Cursor → List Cursor) (state : List Cursor × Places) (cursor : Cursor) :
    List Cursor × Places :=
  if state.2.contains cursor.offset then state else walk greedy step (cursor.rest.length + 1) state cursor

/-- All places some number of steps leads to from any of the given ones. -/
def sweep (greedy : Bool) (step : Cursor → List Cursor) (cursors : List Cursor) : List Cursor :=
  (cursors.foldl (walkFrom greedy step) ([], ∅)).1.reverse

def advance : Pattern → List Cursor → List Cursor
  | .empty, cursors => cursors
  | .one admits, cursors => cursors.filterMap fun cursor =>
    match cursor.rest with
    | [] => none
    | c :: rest => if admits c then some (cursor.past c rest) else none
  | .lineStart, cursors => cursors.filter (·.startsLine)
  | .lineEnd, cursors => cursors.filter fun cursor => cursor.rest.head?.all (· == '\n')
  | .textEnd, cursors => cursors.filter (·.rest.isEmpty)
  | .seq first second, cursors => second.advance (first.advance cursors)
  | .either first second, cursors => cursors.flatMap fun cursor => first.advance [cursor] ++ second.advance [cursor]
  | .many greedy body, cursors => sweep greedy (fun cursor => body.advance [cursor]) cursors

/-- Where the preferred match at the start of a text ends. -/
def leading (pattern : Pattern) (text : List Char) : Option Cursor :=
  (pattern.advance [.start text]).head?

/-- The ends of the parts of the preferred match of several patterns in a row. -/
def split : List Pattern → Cursor → Option (List Cursor)
  | [], _ => some []
  | first :: rest, cursor => (first.advance [cursor]).findSome? fun next => (split rest next).map (next :: ·)

/-- The first place from which the patterns match in a row, and the ends of their parts. -/
def searchFrom (parts : List Pattern) (offset : Nat) (startsLine : Bool) (text : List Char) :
    Option (Cursor × List Cursor) :=
  let cursor : Cursor := ⟨offset, startsLine, text⟩
  match split parts cursor with
  | some ends => some (cursor, ends)
  | none =>
    match text with
    | [] => none
    | c :: rest => searchFrom parts (offset + 1) (c == '\n') rest

def search (parts : List Pattern) (text : List Char) : Option (Cursor × List Cursor) :=
  searchFrom parts 0 true text

/-! Patterns made of others. -/

def char (c : Char) : Pattern := .one (· == c)

def literal : List Char → Pattern
  | [] => .empty
  | c :: rest => .seq (char c) (literal rest)

def newline : Pattern := char '\n'

def notNewline : Pattern := .one (· != '\n')

/-- The rest of a line, as much as possible. -/
def restOfLine : Pattern := .many true notNewline

/-- One or more times, as often as possible. -/
def oneOrMore (body : Pattern) : Pattern := .seq body (.many true body)

/-- Once or not at all, once if possible. -/
def optional (body : Pattern) : Pattern := .either body .empty

/-- At most a number of times, as often as possible. -/
def atMost (body : Pattern) : Nat → Pattern
  | 0 => .empty
  | n + 1 => optional (.seq body (atMost body n))

/-- Exactly a number of times. -/
def times (body : Pattern) : Nat → Pattern
  | 0 => .empty
  | n + 1 => .seq body (times body n)

/-- Between two numbers of times, as often as possible. -/
def between (body : Pattern) (least most : Nat) : Pattern := .seq (times body least) (atMost body (most - least))

end Pattern

end Testbench
