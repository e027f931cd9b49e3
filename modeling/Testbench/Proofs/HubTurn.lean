import Testbench.Proofs.QueueLaws
import Testbench.Run

/-! The loop of the hub taken apart into turns. A turn either ends the switch or comes back to the head of
the loop; what a switch does is then an induction over its turns. -/

namespace Testbench

variable {ν σ : Type} {Q : Type 1} [TimerQueue (Action ν σ) Q]

def World.takeNext (world : World Q ν σ) : Option (Alarm × Action ν σ) × World Q ν σ :=
  let taken := TimerQueue.next world.hub.queue world.hub.reclaim
  (taken.1, world.setQueue taken.2)

section

open LawfulQueue (armed Sound)

variable [LawfulQueue Q] {world rest : World Q ν σ}

theorem World.takeNext_none (sound : Sound world.hub.nextTimer world.hub.queue) (found : world.takeNext = (none, rest)) :
    Sound rest.hub.nextTimer rest.hub.queue ∧ armed world.hub.queue = [] ∧ armed rest.hub.queue = [] := by
  obtain ⟨first, rfl⟩ := Prod.mk.inj found
  exact LawfulQueue.next_none sound (Prod.ext first rfl)

theorem World.takeNext_some {timer : Alarm × Action ν σ} (sound : Sound world.hub.nextTimer world.hub.queue)
    (found : world.takeNext = (some timer, rest)) : Sound rest.hub.nextTimer rest.hub.queue ∧
      (armed world.hub.queue).Perm (timer :: armed rest.hub.queue) ∧ ∀ other ∈ armed rest.hub.queue, timer.1 < other.1 := by
  obtain ⟨first, rfl⟩ := Prod.mk.inj found
  exact LawfulQueue.next_some sound (Prod.ext first rfl)

end

namespace Run

/-- How a switch comes to its end. -/
inductive Ending where
  | resumed
  | interrupted (alarm : Alarm) (error : HubError)
  /-- The hub found nothing left to wait for. -/
  | gaveUp
  | unwound (panic : Panic)

def Ending.answer : Ending → Except (Stop HubError) Unit
  | .resumed => .ok ()
  | .interrupted _ error => .error (.failed error)
  | .gaveUp => .error (.failed .loopExit)
  | .unwound panic => .error (.panicked panic)

inductive Turn (Q : Type 1) (ν σ : Type) where
  | leaves (ending : Ending) (world : World Q ν σ)
  | stays (world : World Q ν σ)

def Turn.world : Turn Q ν σ → World Q ν σ
  | .leaves _ world | .stays world => world

/-- What becomes of a turn that ran a callback. -/
def afterCallback (label : String) : Except (Stop HubError) Unit × World Q ν σ → Turn Q ν σ
  | (.ok (), world) => .stays (world.setInCallback false)
  | (.error (.failed error), world) => .stays ((world.setInCallback false).reportFailure label error)
  | (.error (.panicked panic), world) => .leaves (.unwound panic) (world.setInCallback false)

def fire (turns : Nat) (world : World Q ν σ) (alarm : Alarm) : Action ν σ → Option (Turn Q ν σ)
  | .wake => some (.stays world.wake)
  | .raise error => some (.leaves (.interrupted alarm error) world)
  | .call label callback =>
    (program turns (guarded (loop turns)) callback (world.setInCallback true)).map (afterCallback label)

/-- One turn, with the given number of turns left after it. -/
def turn (turns : Nat) (world : World Q ν σ) : Option (Turn Q ν σ) :=
  if world.hub.woken then some (.leaves .resumed world.clearWoken)
  else
    match world.takeNext with
    | (none, world) => some (.leaves .gaveUp world)
    | (some (alarm, action), world) => fire turns (world.arrive alarm) alarm action

/-- Everything a turn can do. -/
inductive Takes (turns : Nat) (head : World Q ν σ) : Turn Q ν σ → Prop where
  | resumes (woken : head.hub.woken = true) : Takes turns head (.leaves .resumed head.clearWoken)
  | runsOut {rest : World Q ν σ} (unwoken : head.hub.woken = false) (found : head.takeNext = (none, rest)) :
      Takes turns head (.leaves .gaveUp rest)
  | wakes {alarm : Alarm} {rest : World Q ν σ} (unwoken : head.hub.woken = false)
      (found : head.takeNext = (some (alarm, .wake), rest)) : Takes turns head (.stays (rest.arrive alarm).wake)
  | raises {alarm : Alarm} {error : HubError} {rest : World Q ν σ} (unwoken : head.hub.woken = false)
      (found : head.takeNext = (some (alarm, .raise error), rest)) :
      Takes turns head (.leaves (.interrupted alarm error) (rest.arrive alarm))
  | calls {alarm : Alarm} {label : String} {callback : Callback ν σ} {rest after : World Q ν σ}
      {outcome : Except (Stop HubError) Unit} (unwoken : head.hub.woken = false)
      (found : head.takeNext = (some (alarm, .call label callback), rest))
      (called : program turns (guarded (loop turns)) callback ((rest.arrive alarm).setInCallback true) =
        some (outcome, after)) : Takes turns head (afterCallback label (outcome, after))

theorem turn_takes {turns : Nat} {head : World Q ν σ} {taken : Turn Q ν σ} (ran : turn turns head = some taken) :
    Takes turns head taken := by
  unfold turn at ran
  split at ran
  next woken => cases ran; exact .resumes woken
  next isUnwoken =>
    have unwoken := Bool.eq_false_iff.mpr isUnwoken
    split at ran
    next found => cases ran; exact .runsOut unwoken found
    next alarm action rest found =>
      cases action with
      | wake => cases ran; exact .wakes unwoken found
      | raise error => cases ran; exact .raises unwoken found
      | call label callback =>
        obtain ⟨⟨outcome, after⟩, called, rfl⟩ := Option.map_eq_some_iff.mp ran
        exact .calls unwoken found called

theorem loop_succ (turns : Nat) (world : World Q ν σ) :
    loop (turns + 1) world =
      match turn turns world with
      | none => none
      | some (.leaves ending world) => some (ending.answer, world)
      | some (.stays world) => loop turns world := by
  rw [loop, turn, World.takeNext]
  split
  · rfl
  · rcases TimerQueue.next world.hub.queue world.hub.reclaim with ⟨_ | ⟨alarm, action⟩, queue⟩
    · rfl
    · cases action with
      | wake => rfl
      | raise error => rfl
      | call label callback =>
        simp only [fire]
        rcases program turns (guarded (loop turns)) callback
          (((world.setQueue queue).arrive alarm).setInCallback true) with _ | ⟨_ | _, after⟩
        · rfl
        · rename_i stop
          cases stop <;> rfl
        · rfl

/-- A switch ends in the turn that begins at `head`, and in the given way. -/
inductive Leaves : Nat → World Q ν σ → World Q ν σ → Ending → World Q ν σ → Prop where
  | now {turns : Nat} {head after : World Q ν σ} {ending : Ending}
      (left : turn turns head = some (.leaves ending after)) : Leaves (turns + 1) head head ending after
  | later {turns : Nat} {world next head after : World Q ν σ} {ending : Ending}
      (stayed : turn turns world = some (.stays next)) (leaves : Leaves turns next head ending after) :
      Leaves (turns + 1) world head ending after

/-- Every answer of the loop is given by its last turn. -/
theorem loop_eq_some_iff {turns : Nat} {world after : World Q ν σ} {answer : Except (Stop HubError) Unit} :
    loop turns world = some (answer, after) ↔
      ∃ head ending, Leaves turns world head ending after ∧ answer = ending.answer := by
  constructor
  · intro ran
    induction turns generalizing world with
    | zero => cases ran
    | succ turns ih =>
      rw [loop_succ] at ran
      split at ran
      · cases ran
      next ending last taken =>
        cases ran
        exact ⟨world, ending, .now taken, rfl⟩
      next next taken =>
        obtain ⟨head, ending, leaves, same⟩ := ih ran
        exact ⟨head, ending, .later taken leaves, same⟩
  · rintro ⟨head, ending, leaves, rfl⟩
    induction leaves with
    | now left => rw [loop_succ, left]
    | later stayed _ ih => rw [loop_succ, stayed]; exact ih

end Run

end Testbench
