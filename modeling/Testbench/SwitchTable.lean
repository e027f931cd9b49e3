/-!
Whether a test is expected to yield to the hub, looked up by its full name. A rule for the very name
wins; else the longest of the dotted prefixes that have a rule; among rules of one name the last.
-/

namespace Testbench

inductive SwitchExpected where
  /-- Not looked up yet. -/
  | unresolved
  | switch
  | noSwitch
  /-- Either outcome is accepted. -/
  | unspecified
deriving DecidableEq

namespace SwitchExpected

def name : SwitchExpected → String
  | .unresolved => "default"
  | .switch => "switch"
  | .noSwitch => "no_switch"
  | .unspecified => "unspecified"

def accepts (expected : SwitchExpected) (switches : Nat) : Bool :=
  match expected with
  | .switch => switches > 0
  | .noSwitch => switches == 0
  | .unresolved | .unspecified => true

end SwitchExpected

/-- What is expected of the test with a full name. -/
abbrev SwitchPolicy := String → SwitchExpected

def SwitchPolicy.silent : SwitchPolicy := fun _ => .unspecified

/-- The rules in the order they were added. -/
structure SwitchTable where
  exact : List (String × SwitchExpected) := []
  dotted : List (String × SwitchExpected) := []
  fallback : SwitchExpected := .unspecified

namespace SwitchTable

def addExact (table : SwitchTable) (name : String) (expected : SwitchExpected) : SwitchTable :=
  { table with exact := table.exact ++ [(name, expected)] }

def addDotted (table : SwitchTable) (name : String) (expected : SwitchExpected) : SwitchTable :=
  { table with dotted := table.dotted ++ [(name, expected)] }

/-- The name is the rule's, or goes on after it with a dot. -/
def covers (rule name : String) : Bool :=
  rule.toList.isPrefixOf name.toList &&
    match name.toList.drop rule.toList.length with
    | [] => true
    | c :: _ => c == '.'

/-- Of two rules the longer, and of two of one length the later. -/
def longer (best : Option (String × SwitchExpected)) (rule : String × SwitchExpected) :
    Option (String × SwitchExpected) :=
  match best with
  | none => some rule
  | some kept => if kept.1.utf8ByteSize ≤ rule.1.utf8ByteSize then some rule else some kept

def expected (table : SwitchTable) (name : String) : SwitchExpected :=
  match table.exact.reverse.find? (·.1 == name) with
  | some (_, expected) => expected
  | none =>
    match (table.dotted.filter (covers ·.1 name)).foldl longer none with
    | some (_, expected) => expected
    | none => table.fallback

end SwitchTable

end Testbench
