/-!
Reading bytes as UTF-8 when they need not be well formed and may end inside a character. Each
maximal run of bytes that starts a character and cannot be continued stands for one replacement
character.
-/

namespace Testbench.Text.Utf8

/-- What the bytes start with. -/
inductive Head where
  | done
  /-- A whole character, and the bytes after it. -/
  | char (c : Char) (rest : List UInt8)
  /-- Bytes that belong to no character, and the bytes after them. -/
  | malformed (rest : List UInt8)
  /-- Every byte left belongs to a character whose end is missing. -/
  | unfinished
deriving DecidableEq

def between (low high byte : UInt8) : Bool := low ≤ byte && byte ≤ high

/-- The second byte that may follow a lead byte: overlong forms, surrogates and code points past
the last plane are refused there. -/
def follows (lead second : UInt8) : Bool :=
  if lead = 0xE0 then between 0xA0 0xBF second
  else if lead = 0xED then between 0x80 0x9F second
  else if lead = 0xF0 then between 0x90 0xBF second
  else if lead = 0xF4 then between 0x80 0x8F second
  else between 0x80 0xBF second

def low (bits : Nat) (byte : UInt8) : Nat := byte.toNat % Nat.pow 2 bits

/-- The bytes after a lead byte that needs one more. -/
def two (lead : UInt8) : List UInt8 → Head
  | [] => .unfinished
  | b :: rest =>
    if follows lead b then .char (Char.ofNat (low 5 lead * 64 + low 6 b)) rest
    else .malformed (b :: rest)

/-- The bytes after a lead byte that needs two more. -/
def three (lead : UInt8) : List UInt8 → Head
  | [] => .unfinished
  | b :: bytes =>
    if follows lead b then
      match bytes with
      | [] => .unfinished
      | c :: rest =>
        if between 0x80 0xBF c then .char (Char.ofNat (low 4 lead * 4096 + low 6 b * 64 + low 6 c)) rest
        else .malformed (c :: rest)
    else .malformed (b :: bytes)

/-- The bytes after a lead byte that needs three more. -/
def four (lead : UInt8) : List UInt8 → Head
  | [] => .unfinished
  | b :: bytes =>
    if follows lead b then
      match bytes with
      | [] => .unfinished
      | c :: bytes =>
        if between 0x80 0xBF c then
          match bytes with
          | [] => .unfinished
          | d :: rest =>
            if between 0x80 0xBF d then
              .char (Char.ofNat (low 3 lead * 262144 + low 6 b * 4096 + low 6 c * 64 + low 6 d)) rest
            else .malformed (d :: rest)
        else .malformed (c :: bytes)
    else .malformed (b :: bytes)

def head : List UInt8 → Head
  | [] => .done
  | lead :: rest =>
    if lead < 0x80 then .char (Char.ofNat lead.toNat) rest
    else if between 0xC2 0xDF lead then two lead rest
    else if between 0xE0 0xEF lead then three lead rest
    else if between 0xF0 0xF4 lead then four lead rest
    else .malformed rest

def replacement : Char := '\ufffd'

/-- The text of the bytes as far as it is settled, and the unfinished tail. -/
def decodeSteps : Nat → List UInt8 → List Char × List UInt8
  | 0, bytes => ([], bytes)
  | steps + 1, bytes =>
    match head bytes with
    | .done => ([], [])
    | .char c rest => let (text, tail) := decodeSteps steps rest; (c :: text, tail)
    | .malformed rest => let (text, tail) := decodeSteps steps rest; (replacement :: text, tail)
    | .unfinished => ([], bytes)

/-- Each step takes a byte at least, so their number is a bound on the steps. -/
def decode (bytes : List UInt8) : List Char × List UInt8 := decodeSteps bytes.length bytes

/-- The whole text, an unfinished tail standing for one replacement character. -/
def decodeLossy (bytes : List UInt8) : List Char :=
  match decode bytes with
  | (text, []) => text
  | (text, _) => text ++ [replacement]

end Testbench.Text.Utf8
