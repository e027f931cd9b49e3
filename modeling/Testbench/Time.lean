/-!
Time on the bench. A duration is a number of nanoseconds, and an instant the number of nanoseconds
since the bench started.
-/

namespace Testbench

def nanosPerSecond : Nat := 1000000000

/-- The bench starts at second 1000 of the machine's clock. -/
def clockOrigin : Nat := 1000 * nanosPerSecond

/-- The seconds of an instant on the machine's clock fit a signed word of 64 bits. -/
def lastSecond : Nat := Nat.pow 2 63 - 1

/-- The instant a duration after another, if the machine's clock can express it. -/
def deadline? (now after : Nat) : Option Nat :=
  if (clockOrigin + now + after) / nanosPerSecond ≤ lastSecond then some (now + after) else none

namespace Duration

def ofMillis (n : Nat) : Nat := n * 1000000

def ofSeconds (n : Nat) : Nat := n * nanosPerSecond

/-- The digits after the point of `fraction / 10 ^ width`, without trailing zeros. -/
private def fractionDigits (fraction width : Nat) : List Char :=
  let digits := Nat.toDigits 10 fraction
  ((List.replicate (width - digits.length) '0' ++ digits).reverse.dropWhile (· == '0')).reverse

private def decimal (whole fraction width : Nat) : String :=
  match fractionDigits fraction width with
  | [] => toString whole
  | digits => toString whole ++ "." ++ String.ofList digits

/-- The largest unit that leaves a whole part, and all digits that are not trailing zeros. -/
def text (duration : Nat) : String :=
  if duration ≥ 1000000000 then decimal (duration / 1000000000) (duration % 1000000000) 9 ++ "s"
  else if duration ≥ 1000000 then decimal (duration / 1000000) (duration % 1000000) 6 ++ "ms"
  else if duration ≥ 1000 then decimal (duration / 1000) (duration % 1000) 3 ++ "µs"
  else decimal duration 0 0 ++ "ns"

end Duration

end Testbench
