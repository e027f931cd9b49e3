import Mathlib.Logic.Relation
import Testbench.Proofs.RunPassages

/-! All that ever happens to a hub, in steps too small to be interrupted. Whatever a program asks for, and
however a switch goes, it comes down to these: an invariant of the hub is proved step by step, and then holds
at every moment of every run. -/

namespace Testbench

variable {ν σ : Type} {Q : Type 1} [TimerQueue (Action ν σ) Q]

def HubEvent.ofTimer : HubEvent → Bool
  | .armed _ | .cancelled _ | .fired .. => true
  | _ => false

namespace World

inductive Step : World Q ν σ → World Q ν σ → Prop where
  /-- Clock, timers and journal are left alone. -/
  | aside {world after : World Q ν σ} (clock : after.clock = world.clock) (queue : after.hub.queue = world.hub.queue)
      (now : after.hub.now = world.hub.now) (numbers : after.hub.nextTimer = world.hub.nextTimer)
      (timers : after.timers = world.timers) (journal : after.hub.journal = world.hub.journal) : Step world after
  | burn (world : World Q ν σ) (nanos : Nat) : Step world (world.burn nanos)
  | look (world : World Q ν σ) : Step world world.updateNow
  | note (world : World Q ν σ) {event : HubEvent} (other : event.ofTimer = false) : Step world (world.note event)
  | schedule (world : World Q ν σ) (after : Nat) (action : Action ν σ) : Step world (world.schedule after action).2
  | cancel (world : World Q ν σ) (timer : Nat) : Step world (world.cancel timer).2
  | start {world scheduled : World Q ν σ} {delay timer : Nat} (timeout : Timeout)
      (armed : world.schedule delay (.raise timeout.error) = (.ok timer, scheduled)) :
      Step world { scheduled with timers := scheduled.timers.set timeout.id timer }
  | forget (world : World Q ν σ) (timeout : Nat) : Step world { world with timers := world.timers.erase timeout }
  | collect (world : World Q ν σ) : Step world (world.setQueue (TimerQueue.collect world.hub.queue))
  | runOut {world rest : World Q ν σ} (found : world.takeNext = (none, rest)) : Step world rest
  | fire {world rest : World Q ν σ} {alarm : Alarm} {action : Action ν σ}
      (found : world.takeNext = (some (alarm, action), rest)) : Step world (rest.arrive alarm)

abbrev Steps : World Q ν σ → World Q ν σ → Prop := Relation.ReflTransGen Step

theorem Steps.aside {world after : World Q ν σ} (clock : after.clock = world.clock)
    (queue : after.hub.queue = world.hub.queue) (now : after.hub.now = world.hub.now)
    (numbers : after.hub.nextTimer = world.hub.nextTimer) (timers : after.timers = world.timers)
    (journal : after.hub.journal = world.hub.journal) : Steps world after :=
  .single (.aside clock queue now numbers timers journal)

/-- Something was left aside before. -/
theorem Steps.past {world beside after : World Q ν σ} (rest : Steps beside after) (clock : beside.clock = world.clock)
    (queue : beside.hub.queue = world.hub.queue) (now : beside.hub.now = world.hub.now)
    (numbers : beside.hub.nextTimer = world.hub.nextTimer) (timers : beside.timers = world.timers)
    (journal : beside.hub.journal = world.hub.journal) : Steps world after :=
  .head (.aside clock queue now numbers timers journal) rest

theorem note_steps (world : World Q ν σ) {event : HubEvent} (other : event.ofTimer = false) :
    Steps world (world.note event) :=
  .single (.note world other)

theorem cancel_steps (world : World Q ν σ) (timer : Nat) : Steps world (world.cancel timer).2 :=
  .single (.cancel world timer)

theorem onHub_steps {α : Type} (world : World Q ν σ) (request : Hub.Request α) :
    Steps world (world.onHub request).2 := by
  cases request with
  | updateNow => exact .single (.look world)
  | schedule after signal => exact .single (.schedule world after signal.action)
  | cancel timer => exact world.cancel_steps timer
  | liveHandles => exact note_steps world rfl
  | setReclaim enabled => exact (note_steps _ rfl).past rfl rfl rfl rfl rfl rfl
  | collect => exact .single (.collect world)
  | now | isArmed | wake | switchCount | hasProbe | openHandle | closeHandle =>
    exact Steps.aside rfl rfl rfl rfl rfl rfl

theorem cancelTimeout_steps (world : World Q ν σ) (timeout : Timeout) :
    Steps world (world.cancelTimeout timeout).2 := by
  unfold cancelTimeout
  split
  · exact .refl
  · exact .head (.forget world timeout.id) (cancel_steps _ _)

theorem startTimeout_steps (world : World Q ν σ) (timeout : Timeout) : Steps world (world.startTimeout timeout).2 := by
  apply (world.cancelTimeout_steps timeout).trans
  cases delay : timeout.after with
  | none =>
    simp only [startTimeout, delay]
    exact .refl
  | some after =>
    have scheduled := Step.schedule (world.cancelTimeout timeout).2 after (.raise timeout.error)
    simp only [startTimeout, delay]
    split
    next answered => rw [answered] at scheduled; exact .single scheduled
    next answered => exact .single (.start timeout answered)

theorem startLimit_steps (world : World Q ν σ) (limit : WaitLimit) : Steps world (world.startLimit limit).2 := by
  cases limit with
  | never => exact .refl
  | after duration =>
    have made : Steps world (world.newTimeout (some duration)).2 := Steps.aside rfl rfl rfl rfl rfl rfl
    exact made.trans (startTimeout_steps (world.newTimeout (some duration)).2 (world.newTimeout (some duration)).1)
  | under timeout =>
    simp only [startLimit]
    split
    · exact .refl
    · exact startTimeout_steps world timeout

theorem setEvent_steps (world : World Q ν σ) (id : EventId) : Steps world (world.setEvent id) := by
  simp only [setEvent]
  split <;> exact Steps.aside rfl rfl rfl rfl rfl rfl

theorem complete_steps (world : World Q ν σ) (id : ResultId) (value : Except HubError ν) :
    Steps world (world.complete id value) := by
  simp only [complete]
  split <;> exact Steps.aside rfl rfl rfl rfl rfl rfl

theorem beginSwitch_steps (world : World Q ν σ) : Steps world world.beginSwitch := by
  simp only [beginSwitch]
  split
  · exact (note_steps _ rfl).past rfl rfl rfl rfl rfl rfl
  · exact note_steps world rfl

theorem reportFailure_steps (world : World Q ν σ) (label : String) (error : HubError) :
    Steps world (world.reportFailure label error) :=
  (note_steps _ rfl).past rfl rfl rfl rfl rfl rfl

end World

namespace Run

open World (Steps)

abbrev Stepping {α : Type} (run : Run Q ν σ α) : Prop :=
  ∀ world value after, run world = some (value, after) → Steps world after

private theorem carries_steps : Carries fun _ => (Steps : World Q ν σ → World Q ν σ → Prop) where
  refl _ := .refl
  trans first second := first.trans second
  schedule world delay signal := .single (.schedule world delay signal.action)
  cancel world timer := world.cancel_steps timer
  newTimeout _ _ := Steps.aside rfl rfl rfl rfl rfl rfl
  startTimeout world timeout := world.startTimeout_steps timeout
  cancelTimeout world timeout := world.cancelTimeout_steps timeout

private theorem signs_steps : Signs fun _ => (Steps : World Q ν σ → World Q ν σ → Prop) where
  addEventWaiter _ _ := Steps.aside rfl rfl rfl rfl rfl rfl
  removeEventWaiter _ _ := Steps.aside rfl rfl rfl rfl rfl rfl
  addResultWaiter _ _ := Steps.aside rfl rfl rfl rfl rfl rfl
  removeResultWaiter _ _ := Steps.aside rfl rfl rfl rfl rfl rfl

section

variable {switch : Switch Q ν σ} (switches : Stepping switch)

include switches

theorem answer_steps {α : Type} (turns : Nat) (request : Request ν σ α) : Stepping (answer turns switch request) := by
  have along : Along (fun _ => Steps) (fun _ => []) switch := switches
  refine carries_steps.answer along turns (carries_steps.wait along signs_steps turns)
    (carries_steps.get along signs_steps turns)
    request fun other world value after answered => ?_
  cases request with
  | switch | sleep | wait | get | newTimeout | startTimeout | cancelTimeout => cases other
  | burn nanos => cases answered; exact .single (.burn world nanos)
  | hub request =>
    have steps := world.onHub_steps request
    rwa [Option.some.inj answered] at steps
  | setEvent event => cases answered; exact world.setEvent_steps event
  | complete result value => cases answered; exact world.complete_steps result value
  | setUpCase case => cases answered; exact .head (.look world) (Steps.aside rfl rfl rfl rfl rfl rfl)
  | _ => cases answered; exact Steps.aside rfl rfl rfl rfl rfl rfl

theorem program_steps {α : Type} (turns : Nat) (program : Program ν σ α) :
    Stepping (Run.program turns switch program) := by
  have along : Along (fun _ => Steps) (programCalls turns switch (fun _ => []) program)
      (Run.program turns switch program) :=
    carries_steps.program turns (fun request _ => answer_steps switches turns request)
      (fun world delay label callback _ => .single (.schedule world delay (.call label callback)))
        program program.asks_anything
  exact along

theorem guarded_steps : Stepping (guarded switch) := by
  have along : Along (fun _ => Steps) (fun _ => []) switch := switches
  exact carries_steps.guarded World.beginSwitch_steps along

end

private theorem afterCallback_steps (label : String) (outcome : Except (Stop HubError) Unit) (world : World Q ν σ) :
    Steps world (afterCallback label (outcome, world)).world := by
  rcases outcome with (error | panic) | _
  · exact ((world.setInCallback false).reportFailure_steps label error).past rfl rfl rfl rfl rfl rfl
  · exact Steps.aside rfl rfl rfl rfl rfl rfl
  · exact Steps.aside rfl rfl rfl rfl rfl rfl

theorem fire_steps {turns : Nat} (loops : Stepping (loop turns : Switch Q ν σ)) {world : World Q ν σ} {alarm : Alarm}
    {action : Action ν σ} {taken : Turn Q ν σ} (fired : fire turns world alarm action = some taken) :
    Steps world taken.world := by
  cases action with
  | wake => cases fired; exact Steps.aside rfl rfl rfl rfl rfl rfl
  | raise error => cases fired; exact .refl
  | call label callback =>
    obtain ⟨⟨outcome, after⟩, ran, rfl⟩ := Option.map_eq_some_iff.mp fired
    have called : Steps _ after := program_steps (guarded_steps loops) turns callback _ _ _ ran
    have begun : Steps world after := called.past rfl rfl rfl rfl rfl rfl
    exact begun.trans (afterCallback_steps label outcome after)

theorem turn_steps {turns : Nat} (loops : Stepping (loop turns : Switch Q ν σ)) {world : World Q ν σ}
    {taken : Turn Q ν σ} (ran : turn turns world = some taken) : Steps world taken.world := by
  unfold turn at ran
  split at ran
  · cases ran; exact Steps.aside rfl rfl rfl rfl rfl rfl
  split at ran
  next found => cases ran; exact .single (.runOut found)
  next found => exact .head (.fire found) (fire_steps loops ran)

theorem loop_steps (turns : Nat) : Stepping (loop turns : Switch Q ν σ) :=
  carries_steps.loop (fun _ loops _ _ ran => turn_steps loops ran) turns

theorem switch_steps (turns : Nat) : Stepping (Run.switch turns : Switch Q ν σ) := guarded_steps (loop_steps turns)

theorem meets_steps {turns : Nat} {switch : Switch Q ν σ} (switches : Stepping switch) {during : Meeting Q ν σ}
    (within : ∀ world moment, during world moment → Steps world moment) {α : Type} {program : Program ν σ α}
    {world moment : World Q ν σ} (met : Meets turns switch during program world moment) : Steps world moment := by
  have along : Along (fun _ => Steps) (fun _ => []) switch := switches
  exact carries_steps.meets (fun request _ => answer_steps switches turns request)
    (carries_steps.meetsIn signs_steps along within)
    (fun world delay label callback _ => .single (.schedule world delay (.call label callback)))
      program.asks_anything met

theorem guardedMeets_steps {during : Meeting Q ν σ} (within : ∀ world moment, during world moment → Steps world moment)
    (world moment : World Q ν σ) (met : guardedMeets during world moment) : Steps world moment :=
  carries_steps.guardedMeets World.beginSwitch_steps within met

theorem loopMeets_steps (turns : Nat) (world moment : World Q ν σ) (met : loopMeets turns world moment) :
    Steps world moment := by
  refine carries_steps.loopMeets (fun turns _ _ => turn_steps (loop_steps turns)) ?_ turns world moment met
  intro turns within world moment alarm label callback rest found met
  have called : Steps _ moment := meets_steps (guarded_steps (loop_steps turns)) (guardedMeets_steps within) met
  exact .head (.fire found) (called.past rfl rfl rfl rfl rfl rfl)

end Run

/-- Every moment of a run is reached by steps of the hub. -/
theorem Program.meets_steps {α : Type} {turns : Nat} {program : Program ν σ α} {world moment : World Q ν σ}
    (met : program.Meets turns world moment) : World.Steps world moment :=
  Run.meets_steps (Run.switch_steps turns) (Run.guardedMeets_steps (Run.loopMeets_steps turns)) met

end Testbench
