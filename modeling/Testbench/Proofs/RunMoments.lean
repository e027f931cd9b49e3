import Testbench.Proofs.HubTurn

/-! The moments of a run: every world between two requests of a program, those of the callbacks in the middle
of a switch included, and every world in which the hub is at the head of its loop. What holds at each moment
also holds of runs that never finish, since a run has its first moments whether it finishes or not. -/

namespace Testbench

variable {ν σ : Type} {Q : Type 1} [TimerQueue (Action ν σ) Q]

namespace Run

/-- From where something started, and a world it came to on its way. -/
abbrev Meeting (Q : Type 1) (ν σ : Type) := World Q ν σ → World Q ν σ → Prop

section

variable (turns : Nat) (switch : Switch Q ν σ) (during : Meeting Q ν σ)

/-- The moments of a wait, which switches until it is done. -/
inductive MeetsUntil (done : World Q ν σ → Bool) : Nat → Meeting Q ν σ where
  | within {turns : Nat} {world moment : World Q ν σ} (met : during world moment) :
      MeetsUntil done (turns + 1) world moment
  | again {turns : Nat} {world after moment : World Q ν σ} (switched : switch world = some (.ok (), after))
      (undone : done after = false) (rest : MeetsUntil done turns after moment) :
      MeetsUntil done (turns + 1) world moment

/-- The moments inside a request. Only a request that switches has any. -/
inductive MeetsIn : {α : Type} → Request ν σ α → Meeting Q ν σ where
  | switch {world moment : World Q ν σ} (met : during world moment) : MeetsIn .switch world moment
  | sleep {after timer : Nat} {world armed moment : World Q ν σ}
      (scheduled : world.schedule after .wake = (.ok timer, armed)) (met : during armed moment) :
      MeetsIn (.sleep after) world moment
  | wait {id : EventId} {limit : WaitLimit} {timeout : Option Timeout} {world started moment : World Q ν σ}
      (unset : (world.event id).isSet = false) (start : world.startLimit limit = (.ok timeout, started))
      (met : MeetsUntil switch during (fun world => (world.event id).isSet) turns (started.addEventWaiter id) moment) :
      MeetsIn (.wait id limit) world moment
  | get {id : ResultId} {limit : WaitLimit} {timeout : Option Timeout} {world started moment : World Q ν σ}
      (unready : (world.result id).isReady = false) (start : world.startLimit limit = (.ok timeout, started))
      (met : MeetsUntil switch during (fun world => (world.result id).isReady) turns (started.addResultWaiter id) moment) :
      MeetsIn (.get id limit) world moment

inductive Meets : {α : Type} → Program ν σ α → Meeting Q ν σ where
  | here {α : Type} {program : Program ν σ α} {world : World Q ν σ} : Meets program world world
  | inside {α β : Type} {asked : Request ν σ β} {next : β → Program ν σ α} {world moment : World Q ν σ}
      (met : MeetsIn turns switch during asked world moment) : Meets (.request asked next) world moment
  | request {α β : Type} {asked : Request ν σ β} {next : β → Program ν σ α} {reply : β} {world after moment : World Q ν σ}
      (answered : answer turns switch asked world = some (reply, after)) (rest : Meets (next reply) after moment) :
      Meets (.request asked next) world moment
  | call {α : Type} {after : Nat} {label : String} {callback : Callback ν σ} {next : Except Panic Nat → Program ν σ α}
      {reply : Except Panic Nat} {world armed moment : World Q ν σ}
      (scheduled : world.schedule after (.call label callback) = (reply, armed)) (rest : Meets (next reply) armed moment) :
      Meets (.call after label callback next) world moment

/-- A switch that is refused has no moments. -/
def guardedMeets : Meeting Q ν σ := fun world moment =>
  world.beginSwitch.hub.inCallback = false ∧ during world.beginSwitch moment

end

/-- The moments of the hub's loop: its head, those of the callback that fires, and those of the turns after. -/
def loopMeets : Nat → Meeting Q ν σ
  | 0, _, _ => False
  | turns + 1, world, moment =>
    moment = world ∨
    (world.hub.woken = false ∧ ∃ alarm label callback rest, world.takeNext = (some (alarm, .call label callback), rest) ∧
      Meets turns (guarded (loop turns)) (guardedMeets (loopMeets turns)) callback
        ((rest.arrive alarm).setInCallback true) moment) ∨
    ∃ next, turn turns world = some (.stays next) ∧ loopMeets turns next moment

end Run

/-- The run of the program from the first world comes by the second. -/
def Program.Meets {α : Type} (turns : Nat) (program : Program ν σ α) : Run.Meeting Q ν σ :=
  Run.Meets turns (Run.switch turns) (Run.guardedMeets (Run.loopMeets turns)) program

theorem Program.meets_end {α : Type} {turns : Nat} {program : Program ν σ α} {world after : World Q ν σ} {value : α}
    (ran : program.run turns world = some (value, after)) : program.Meets turns world after := by
  unfold Program.run at ran
  unfold Program.Meets
  induction program generalizing world with
  | pure value => cases ran; exact .here
  | request asked next ih =>
    simp only [Run.program] at ran
    split at ran
    · cases ran
    next reply later answered => exact .request answered (ih reply ran)
  | call delay label callback next _ ih => exact .call rfl (ih _ ran)

end Testbench
