import Testbench.Hub.Alarm

/-!
What a hub needs of its timers. The loop of the hub is written against this interface, so that it
means the same over any queue that answers alike.
-/

namespace Testbench

/-- A queue of armed timers, each with the action it carries. -/
class TimerQueue (α : outParam (Type u)) (Q : Type u) where
  empty : Q
  arm : Q → Nat → Nat → α → Q
  /-- Forgets a timer; `none` if it is not armed. -/
  cancel? : Q → Nat → Option Q
  isArmed : Q → Nat → Bool
  armedCount : Q → Nat
  /-- Takes out the armed timer that is next to fire. The flag allows the queue to tidy up on the way. -/
  next : Q → Bool → Option (Alarm × α) × Q
  /-- Tidies up at once. -/
  collect : Q → Q

end Testbench
