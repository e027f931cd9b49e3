import Testbench.Text.Utf8

/-!
A writer of diagnostics that takes bytes in any portions. Bytes that do not yet make a character are held
back until they do, or until the writer is flushed. Text written as such is not held back.
-/

namespace Testbench

structure Writer where
  heldBack : List UInt8 := []

namespace Writer

/-- What a write delivers. Nothing is delivered when there is nothing. -/
def delivery (text : List Char) : Option String :=
  if text.isEmpty then none else some (String.ofList text)

def writeBytes (writer : Writer) (bytes : List UInt8) : Option String × Writer :=
  let (text, tail) := Text.Utf8.decode (writer.heldBack ++ bytes)
  (delivery text, ⟨tail⟩)

def flush (writer : Writer) : Option String × Writer :=
  (delivery (Text.Utf8.decodeLossy writer.heldBack), ⟨[]⟩)

/-- Text overtakes the bytes that are held back. -/
def writeText (writer : Writer) (text : String) : Option String × Writer := (some text, writer)

/-- What is asked of a writer of bytes. -/
inductive Call where
  | write (bytes : List UInt8)
  | flush
deriving DecidableEq

/-- How a call went. -/
structure Outcome where
  /-- How many bytes were taken; a flush takes none and says nothing. -/
  taken? : Option Nat
  delivered? : Option String
deriving DecidableEq

/-- A write always takes all of its bytes. -/
def handle (writer : Writer) : Call → Outcome × Writer
  | .write bytes =>
    let (delivered?, writer) := writer.writeBytes bytes
    (⟨some bytes.length, delivered?⟩, writer)
  | .flush =>
    let (delivered?, writer) := writer.flush
    (⟨none, delivered?⟩, writer)

end Writer

end Testbench
