import Testbench.Proofs.HubTurn

/-! The callbacks of a run, in the order they fire, each with what became of it. They are read off the run itself:
every part of a run is looked through for the callbacks in it. -/

namespace Testbench

variable {ν σ : Type} {Q : Type 1} [TimerQueue (Action ν σ) Q]

/-- A callback that was run to its end. -/
structure Call where
  label : String
  outcome : Except (Stop HubError) Unit

namespace Run

/-- The callbacks that are run on the way from a world. -/
abbrev Calling (Q : Type 1) (ν σ : Type) := World Q ν σ → List Call

section

variable (turns : Nat) (switch : Switch Q ν σ) (calls : Calling Q ν σ)

def untilCalls (done : World Q ν σ → Bool) : Nat → Calling Q ν σ
  | 0, _ => []
  | turns + 1, world =>
    calls world ++
      match switch world with
      | some (.ok (), after) => if done after then [] else untilCalls done turns after
      | _ => []

/-- The callbacks that are run in a request. Only a request that switches has any. -/
def callsIn {α : Type} : Request ν σ α → Calling Q ν σ
  | .switch, world => calls world
  | .sleep after, world =>
    match world.schedule after .wake with
    | (.ok _, armed) => calls armed
    | _ => []
  | .wait id limit, world =>
    if (world.event id).isSet then []
    else
      match world.startLimit limit with
      | (.ok _, started) => untilCalls switch calls (fun world => (world.event id).isSet) turns
        (started.addEventWaiter id)
      | _ => []
  | .get id limit, world =>
    if (world.result id).isReady then []
    else
      match world.startLimit limit with
      | (.ok _, started) => untilCalls switch calls (fun world => (world.result id).isReady) turns
        (started.addResultWaiter id)
      | _ => []
  | _, _ => []

def programCalls {α : Type} : Program ν σ α → Calling Q ν σ
  | .pure _, _ => []
  | .request asked next, world =>
    callsIn turns switch calls asked world ++
      match answer turns switch asked world with
      | some (reply, after) => programCalls (next reply) after
      | none => []
  | .call after label callback next, world =>
    let (reply, armed) := world.schedule after (.call label callback)
    programCalls (next reply) armed

/-- A switch that is refused runs nothing. -/
def guardedCalls : Calling Q ν σ := fun world =>
  if world.beginSwitch.hub.inCallback then [] else calls world.beginSwitch

end

/-- The callback a turn runs, if it does. A callback cannot switch, so no other is run meanwhile. -/
def turnCalls (turns : Nat) : Calling Q ν σ := fun world =>
  if world.hub.woken then []
  else
    match world.takeNext with
    | (some (alarm, .call label callback), rest) =>
      match program turns (guarded (loop turns)) callback ((rest.arrive alarm).setInCallback true) with
      | some (outcome, _) => [⟨label, outcome⟩]
      | none => []
    | _ => []

def loopCalls : Nat → Calling Q ν σ
  | 0, _ => []
  | turns + 1, world =>
    turnCalls turns world ++
      match turn turns world with
      | some (.stays next) => loopCalls turns next
      | _ => []

end Run

/-- The callbacks that are run on the way of the program, in the order they fire. -/
def Program.calls {α : Type} (turns : Nat) (program : Program ν σ α) : Run.Calling Q ν σ :=
  Run.programCalls turns (Run.switch turns) (Run.guardedCalls (Run.loopCalls turns)) program

end Testbench
