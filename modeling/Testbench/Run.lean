import Testbench.World

/-!
Running programs. Control leaves a task only through a switch, and the hub then fires timers until the
task is resumed, interrupted, or nothing is left to wait for. A callback cannot switch, so a run is bounded
by the number of turns the hub and the waits make; a run for which the bound is too small has no result.
-/

namespace Testbench

/-- What a bounded run of something comes to. -/
abbrev Run (Q : Type 1) (ν σ α : Type) := World Q ν σ → Option (α × World Q ν σ)

namespace Run

variable {ν σ : Type} {Q : Type 1} [TimerQueue (Action ν σ) Q]

abbrev Switch (Q : Type 1) (ν σ : Type) := Run Q ν σ (Except (Stop HubError) Unit)

/-- Switches until the event is set. A task that is resumed for another reason goes on waiting. -/
def untilSet (switch : Switch Q ν σ) (id : EventId) : Nat → Switch Q ν σ
  | 0, _ => none
  | turns + 1, world =>
    match switch world with
    | none => none
    | some (.error stop, world) => some (.error stop, world)
    | some (.ok (), world) => if (world.event id).isSet then some (.ok (), world) else untilSet switch id turns world

/-- Switches until the result is there. -/
def untilReady (switch : Switch Q ν σ) (id : ResultId) : Nat → Run Q ν σ (Except (Stop HubError) ν)
  | 0, _ => none
  | turns + 1, world =>
    match switch world with
    | none => none
    | some (.error stop, world) => some (.error stop, world)
    | some (.ok (), world) =>
      match (world.result id).value with
      | some value => some (value.mapError .failed, world)
      | none => untilReady switch id turns world

/-- The timer is cancelled on the way out, but not by a panic, which has no way out. -/
def sleep (switch : Switch Q ν σ) (after : Nat) : Switch Q ν σ := fun world =>
  match world.schedule after .wake with
  | (.error panic, world) => some (.error (.panicked panic), world)
  | (.ok timer, world) =>
    match switch world with
    | none => none
    | some (.error (.panicked panic), world) => some (.error (.panicked panic), world)
    | some (answer, world) => some (answer, (world.cancel timer).2)

/-- A wait's own timeout is an answer; any other interrupt is not. The waiter is signed off unless a panic
comes through, the timer is cancelled in any case. -/
def wait (turns : Nat) (switch : Switch Q ν σ) (id : EventId) (limit : WaitLimit) :
    Run Q ν σ (Except (Stop HubError) Waited) := fun world =>
  if (world.event id).isSet then some (.ok .set, world)
  else
    match world.startLimit limit with
    | (.error panic, world) => some (.error (.panicked panic), world)
    | (.ok timeout, world) =>
      match untilSet switch id turns (world.addEventWaiter id) with
      | none => none
      | some (.error (.panicked panic), world) => some (.error (.panicked panic), world.endLimit timeout)
      | some (.error (.failed error), world) =>
        let world := (world.removeEventWaiter id).endLimit timeout
        if timeout.any (·.elapsedIn error) then some (.ok .timedOut, world)
        else some (.error (.failed error), world)
      | some (.ok (), world) => some (.ok .set, (world.removeEventWaiter id).endLimit timeout)

/-- A result's value or error once it is there; every interrupt before that, its own timeout included, is an
error. -/
def get (turns : Nat) (switch : Switch Q ν σ) (id : ResultId) (limit : WaitLimit) :
    Run Q ν σ (Except (Stop HubError) ν) := fun world =>
  match (world.result id).value with
  | some value => some (value.mapError .failed, world)
  | none =>
    match world.startLimit limit with
    | (.error panic, world) => some (.error (.panicked panic), world)
    | (.ok timeout, world) =>
      match untilReady switch id turns (world.addResultWaiter id) with
      | none => none
      | some (.error (.panicked panic), world) => some (.error (.panicked panic), world.endLimit timeout)
      | some (answer, world) => some (answer, (world.removeResultWaiter id).endLimit timeout)

/-- Answers a request. Only the requests that switch are bounded. -/
def answer (turns : Nat) (switch : Switch Q ν σ) {α : Type} : Request ν σ α → Run Q ν σ α
  | .clock, world => some (world.clock, world)
  | .burn nanos, world => some ((), world.burn nanos)
  | .hub request, world => some (world.onHub request)
  | .switch, world => switch world
  | .sleep after, world => sleep switch after world
  | .newError message, world =>
    some (⟨world.errorsMade, message⟩, { world with errorsMade := world.errorsMade + 1 })
  | .newTimeout after, world => some (world.newTimeout after)
  | .startTimeout timeout, world => some (world.startTimeout timeout)
  | .cancelTimeout timeout, world => some (world.cancelTimeout timeout)
  | .isPending timeout, world => some (world.isPending timeout, world)
  | .newEvent, world => some world.newEvent
  | .setEvent event, world => some ((), world.setEvent event)
  | .clearEvent event, world => some ((), world.clearEvent event)
  | .readEvent event, world => some (world.event event, world)
  | .wait event limit, world => wait turns switch event limit world
  | .newResult, world => some world.newResult
  | .complete result value, world => some ((), world.complete result value)
  | .readResult result, world => some (world.result result, world)
  | .get result limit, world => get turns switch result limit world
  | .diagnostics request, world => some (world.onDiagnostics request)
  | .newCase id policy config, world => some (world.newCase id policy config)
  | .readCase case, world => some (world.case case, world)
  | .setUpCase case, world => some ((), world.setUpCase case)
  | .classifyCase case expected, world => some ((), world.classifyCase case expected)
  | .recall, world => some (world.memory, world)
  | .store memory, world => some ((), { world with memory })

/-- Runs a program, given what a switch does. -/
def program (turns : Nat) (switch : Switch Q ν σ) {α : Type} : Program ν σ α → Run Q ν σ α
  | .pure value, world => some (value, world)
  | .request asked next, world =>
    match answer turns switch asked world with
    | none => none
    | some (answer, world) => program turns switch (next answer) world
  | .call after label callback next, world =>
    let (answer, world) := world.schedule after (.call label callback)
    program turns switch (next answer) world

/-- A switch counts, and is refused to a callback. -/
def guarded (loop : Switch Q ν σ) : Switch Q ν σ := fun world =>
  let world := world.beginSwitch
  if world.hub.inCallback then some (.error (.failed .blockingInCallback), world) else loop world

/-- Fires timers until the task is to go on. -/
def loop : Nat → Switch Q ν σ
  | 0, _ => none
  | turns + 1, world =>
    if world.hub.woken then some (.ok (), world.clearWoken)
    else
      match TimerQueue.next world.hub.queue world.hub.reclaim with
      | (none, queue) => some (.error (.failed .loopExit), world.setQueue queue)
      | (some (alarm, action), queue) =>
        let world := (world.setQueue queue).arrive alarm
        match action with
        | .wake => loop turns world.wake
        | .raise error => some (.error (.failed error), world)
        | .call label callback =>
          match program turns (guarded (loop turns)) callback (world.setInCallback true) with
          | none => none
          | some (outcome, world) =>
            let world := world.setInCallback false
            match outcome with
            | .ok () => loop turns world
            | .error (.failed error) => loop turns (world.reportFailure label error)
            | .error (.panicked panic) => some (.error (.panicked panic), world)

def switch (turns : Nat) : Switch Q ν σ := guarded (loop turns)

end Run

/-- Runs a program for at most a number of turns. -/
def Program.run {ν σ α : Type} {Q : Type 1} [TimerQueue (Action ν σ) Q] (turns : Nat) (program : Program ν σ α) :
    Run Q ν σ α := Run.program turns (Run.switch turns) program

end Testbench
