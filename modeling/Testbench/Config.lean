import Testbench.Error
import Testbench.Text.Characters

/-!
The two switches of the harness, read from the arguments of the run and then from the environment,
which has the last word.
-/

namespace Testbench

structure Config where
  /-- Diagnostics are left alone and assertions about them pass. -/
  verbose : Bool := false
  /-- Every consumed piece of diagnostics is echoed. -/
  debug : Bool := false
deriving DecidableEq

namespace Config

def verboseVariable : String := "HUBTEST_VERBOSE"

def debugVariable : String := "HUBTEST_DEBUG"

def debugFlag : String := "--debug-harness"

def verboseFlag : String := "-v"

/-- Asking once for verbose output is for the tests; asking again is for the harness too. The debug
flag is the harness's own and is taken out of the arguments. -/
def ofArgs (args : List String) : Config × List String :=
  ({ verbose := args.count verboseFlag > 1, debug := args.contains debugFlag },
    args.filter (· ≠ debugFlag))

/-- Lower case for the letters of ASCII only. -/
private def lower (text : List Char) : String := String.ofList (text.map Char.toLower)

def readSwitch (name value : String) : Except Failure Bool :=
  let word := lower (Text.trim value.toList)
  if word ∈ ["1", "true", "yes", "on"] then .ok true
  else if word ∈ ["0", "false", "no", "off", ""] then .ok false
  else .error (.config ("invalid value for " ++ name ++ ": expected boolean, got " ++ Text.quoted value))

/-- The settings after the environment was read, and the first value that was none. What was read
before it stays. -/
def override (config : Config) (lookup : String → Option String) : Config × Except Failure Unit :=
  let read (name : String) (current : Bool) : Except Failure Bool :=
    match lookup name with
    | none => .ok current
    | some value => readSwitch name value
  match read verboseVariable config.verbose with
  | .error failure => (config, .error failure)
  | .ok verbose =>
    let config := { config with verbose }
    match read debugVariable config.debug with
    | .error failure => (config, .error failure)
    | .ok debug => ({ config with debug }, .ok ())

end Config

end Testbench
