import Testbench.Text.Characters

/-!
The values of a report line and their compact text: no blanks, members in the order they are listed.
-/

namespace Testbench

inductive Json where
  | null
  | bool (value : Bool)
  | number (value : Nat)
  | string (value : String)
  | object (members : List (String × Json))

namespace Json

/-- Only what has to be escaped is; a control without a letter of its own gets four digits. -/
def escape (c : Char) : List Char :=
  if c = '"' then ['\\', '"']
  else if c = '\\' then ['\\', '\\']
  else if c = '\x08' then ['\\', 'b']
  else if c = '\x0c' then ['\\', 'f']
  else if c = '\n' then ['\\', 'n']
  else if c = '\r' then ['\\', 'r']
  else if c = '\t' then ['\\', 't']
  else if c.toNat < 32 then
    let digits := Text.hex c.toNat
    ['\\', 'u'] ++ List.replicate (4 - digits.length) '0' ++ digits
  else [c]

def stringText (text : String) : String := String.ofList (['"'] ++ text.toList.flatMap escape ++ ['"'])

mutual

def text : Json → String
  | .null => "null"
  | .bool true => "true"
  | .bool false => "false"
  | .number n => toString n
  | .string text => stringText text
  | .object members => "\x7b" ++ membersText members ++ "\x7d"

def membersText : List (String × Json) → String
  | [] => ""
  | [member] => memberText member
  | member :: rest => memberText member ++ "," ++ membersText rest

def memberText : String × Json → String
  | (name, value) => stringText name ++ ":" ++ text value

end

end Json

end Testbench
