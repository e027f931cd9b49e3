/-!
Names of tests: the stem of the file, the class and the method, joined by dots.
-/

namespace Testbench

structure TestId where
  fileStem : String
  className : String
  method : String
deriving DecidableEq

def TestId.caseName (id : TestId) : String := id.className ++ "." ++ id.method

def TestId.fullName (id : TestId) : String := id.fileStem ++ "." ++ id.caseName

/-- A method is a test by its name alone. -/
def isTestName (name : String) : Bool := name == "test" || "test_".toList.isPrefixOf name.toList

/-- The last part of a path that names something: empty parts and single dots do not. -/
private def lastPart (path : List Char) : Option (List Char) :=
  ((path.splitOn '/').filter fun part => part ≠ [] && part ≠ ['.']).getLast?

/-- What is before the last dot, unless that dot is the first character. -/
private def withoutExtension (name : List Char) : List Char :=
  match (name.reverse.dropWhile (· ≠ '.')).drop 1 with
  | [] => name
  | stem => stem.reverse

/-- The name of the file at the end of a path, without its extension. A path that ends in no file name
is its own stem. -/
def fileStem (path : String) : String :=
  match lastPart path.toList with
  | none => path
  | some part => if part = ['.', '.'] then path else String.ofList (withoutExtension part)

end Testbench
