import Testbench.Proofs.HeapOrder
import Testbench.Hub.TimerQueue

/-! What a queue of timers owes its hub, said of the timers it holds armed. How a queue keeps them, and what
else it keeps, is its own affair: everything proved of a hub is proved from these laws. -/

namespace Testbench

universe u

/-- The bound is the number of the next timer: a hub hands every number to its queue once. -/
class LawfulQueue {α : outParam (Type u)} (Q : Type u) [TimerQueue α Q] where
  /-- The armed timers, in no particular order. -/
  armed : Q → List (Alarm × α)
  Sound : Nat → Q → Prop
  sound_empty : Sound 0 TimerQueue.empty
  armed_empty : armed TimerQueue.empty = []
  distinct {bound : Nat} {queue : Q} : Sound bound queue → (armed queue).Pairwise (·.1.id ≠ ·.1.id)
  numbered {bound : Nat} {queue : Q} : Sound bound queue → ∀ timer ∈ armed queue, timer.1.id < bound
  sound_skip {bound : Nat} {queue : Q} : Sound bound queue → Sound (bound + 1) queue
  sound_arm {bound : Nat} {queue : Q} (deadline : Nat) (action : α) :
    Sound bound queue → Sound (bound + 1) (TimerQueue.arm queue bound deadline action)
  armed_arm {bound : Nat} {queue : Q} (deadline : Nat) (action : α) : Sound bound queue →
    (armed (TimerQueue.arm queue bound deadline action)).Perm ((⟨deadline, bound⟩, action) :: armed queue)
  isArmed_iff {bound : Nat} {queue : Q} (id : Nat) : Sound bound queue →
    (TimerQueue.isArmed queue id = true ↔ ∃ timer ∈ armed queue, timer.1.id = id)
  armedCount_eq {bound : Nat} {queue : Q} : Sound bound queue →
    TimerQueue.armedCount queue = (armed queue).length
  cancel_none {bound : Nat} {queue : Q} {id : Nat} : Sound bound queue →
    TimerQueue.cancel? queue id = none → TimerQueue.isArmed queue id = false
  cancel_some {bound : Nat} {queue rest : Q} {id : Nat} : Sound bound queue →
    TimerQueue.cancel? queue id = some rest → TimerQueue.isArmed queue id = true ∧ Sound bound rest ∧
      (armed rest).Perm ((armed queue).filter (·.1.id ≠ id))
  next_none {bound : Nat} {queue rest : Q} {reclaim : Bool} : Sound bound queue →
    TimerQueue.next queue reclaim = (none, rest) → Sound bound rest ∧ armed queue = [] ∧ armed rest = []
  next_some {bound : Nat} {queue rest : Q} {reclaim : Bool} {timer : Alarm × α} : Sound bound queue →
    TimerQueue.next queue reclaim = (some timer, rest) → Sound bound rest ∧
      (armed queue).Perm (timer :: armed rest) ∧ ∀ other ∈ armed rest, timer.1 < other.1
  sound_collect {bound : Nat} {queue : Q} : Sound bound queue → Sound bound (TimerQueue.collect queue)
  armed_collect {bound : Nat} {queue : Q} : Sound bound queue →
    (armed (TimerQueue.collect queue)).Perm (armed queue)

end Testbench
