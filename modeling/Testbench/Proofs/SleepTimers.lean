import Testbench.Proofs.SleepTimes

/-! The timer of a sleep after the sleep. Whether the task is resumed, interrupted or refused, and also when nothing is
left that could fire, the timer is gone for good. Only a panic that a callback ends with comes past it: then the timer is
what the callbacks made of it, and one that they left alone goes off when its time is over. -/

namespace Testbench

open LawfulQueue (armed)

variable {ν σ : Type} {Q : Type 1} [TimerQueue (Action ν σ) Q]

namespace World

variable [LawfulQueue Q] {world after : World Q ν σ}

/-- A timer is armed until it fires or is cancelled. -/
theorem Recorded.isArmed_iff_unsettled (recorded : Recorded world) {timer : Nat}
    (known : timer ∈ world.scheduled.map (·.id)) :
    world.isArmed timer = true ↔ timer ∉ world.firings.map (·.alarm.id) ∧ timer ∉ world.cancelled := by
  obtain ⟨fate, has, only⟩ := recorded.one_fate known
  constructor
  · intro isArmed
    obtain rfl := only .armed isArmed
    refine ⟨fun fired => ?_, fun dropped => ?_⟩
    · cases only .fired fired
    · cases only .cancelled dropped
  · rintro ⟨unfired, kept⟩
    cases fate with
    | armed => exact has
    | fired => exact absurd has unfired
    | cancelled => exact absurd has kept

theorem Recorded.scheduled_of_isArmed (recorded : Recorded world) {timer : Nat} (isArmed : world.isArmed timer = true) :
    timer ∈ world.scheduled.map (·.id) := by
  obtain ⟨onto, -⟩ := recorded.numbers_split
  exact onto.mem_iff.mpr (List.mem_append_left _ ((recorded.isArmed_iff timer).mp isArmed))

theorem Recorded.isArmed_cancel (recorded : Recorded world) (timer : Nat) :
    (world.cancel timer).2.isArmed timer = false := by
  refine Bool.eq_false_iff.mpr fun isArmed => ?_
  have cancelled := recorded.steps (world.cancel_steps timer)
  obtain ⟨held, member, same⟩ := (LawfulQueue.isArmed_iff timer cancelled.sound).mp isArmed
  exact (Clings.mem_armed_cancel world recorded.sound timer held member).2 same

theorem Recorded.isArmed_schedule (recorded : Recorded world) {delay timer : Nat} {action : Action ν σ}
    (scheduled : world.schedule delay action = (.ok timer, after)) : after.isArmed timer = true := by
  have recorded' := recorded.steps (.single (.schedule world delay action))
  rw [scheduled] at recorded'
  obtain ⟨-, -, -, onto⟩ := World.schedule_armed world recorded.sound scheduled
  exact (LawfulQueue.isArmed_iff timer recorded'.sound).mpr ⟨_, onto.mem_iff.mpr (List.mem_cons_self ..), rfl⟩

end World

namespace Run

variable {turns : Nat} {world after : World Q ν σ} {panic : Panic}

/-- The panic that comes out of a switch is that of a callback. -/
theorem switch_unwound (ran : switch turns world = some (.error (.panicked panic), after)) :
    ∃ label, ⟨label, .error (.panicked panic)⟩ ∈ guardedCalls (loopCalls turns) world := by
  simp only [switch, guarded] at ran
  split at ran
  · cases ran
  next outside =>
    obtain ⟨head, ending, leaves, answered⟩ := loop_eq_some_iff.mp ran
    simp only [guardedCalls, outside, Bool.false_eq_true, if_false]
    cases ending with
    | unwound other => cases answered; exact leaves.called
    | resumed | interrupted | gaveUp => cases answered

/-- How a sleep is left, and what becomes of its timer. -/
inductive SleepLeft (turns delay : Nat) (before after : World Q ν σ) : Except (Stop HubError) Unit → Prop where
  /-- There is no such deadline, and nothing was armed. -/
  | beyond (overflows : deadline? before.clock delay = none) (queue : after.hub.queue = before.hub.queue) :
      SleepLeft turns delay before after (.error (.panicked .instantOverflow))
  /-- The timer is not armed, and never will be. -/
  | disarmed {timer : Nat} {begun left : World Q ν σ} {reply : Except (Stop HubError) Unit}
      (scheduled : before.schedule delay .wake = (.ok timer, begun)) (isArmed : begun.isArmed timer = true)
      (switched : switch turns begun = some (reply, left)) (unpanicked : ∀ panic, reply ≠ .error (.panicked panic))
      (gone : ∀ later, World.Steps after later → later.isArmed timer = false) : SleepLeft turns delay before after reply
  /-- A callback panicked, and nobody looks after the timer. -/
  | unwound {timer : Nat} {begun : World Q ν σ} {label : String} {panic : Panic}
      (scheduled : before.schedule delay .wake = (.ok timer, begun)) (isArmed : begun.isArmed timer = true)
      (switched : switch turns begun = some (.error (.panicked panic), after))
      (called : ⟨label, .error (.panicked panic)⟩ ∈ guardedCalls (loopCalls turns) begun)
      (remains : after.isArmed timer = true ↔ timer ∉ after.firings.map (·.alarm.id) ∧ timer ∉ after.cancelled) :
      SleepLeft turns delay before after (.error (.panicked panic))

theorem sleep_left [LawfulQueue Q] {delay : Nat} {reply : Except (Stop HubError) Unit} (recorded : World.Recorded world)
    (slept : sleep (switch turns) delay world = some (reply, after)) : SleepLeft turns delay world after reply := by
  have steps : World.Steps world (world.schedule delay .wake).2 := .single (.schedule world delay .wake)
  unfold sleep at slept
  split at slept
  next refused =>
    obtain ⟨rfl, overflows⟩ := World.schedule_refused refused
    cases slept
    refine .beyond overflows ?_
    simp only [World.schedule, World.updateNow, overflows] at refused
    obtain ⟨-, rfl⟩ := Prod.mk.inj refused
    rfl
  next timer begun scheduled =>
    have isArmed := recorded.isArmed_schedule scheduled
    rw [scheduled] at steps
    have known := (recorded.steps steps).scheduled_of_isArmed isArmed
    have stillKnown {later : World Q ν σ} (onward : World.Steps begun later) : timer ∈ later.scheduled.map (·.id) :=
      ((onward.journal_grows.filterMap HubEvent.arming?).map (·.id)).subset known
    split at slept
    · cases slept
    next panic left switched =>
      cases slept
      obtain ⟨label, called⟩ := switch_unwound switched
      have onward := switch_steps turns _ _ _ switched
      have remains := (recorded.steps (steps.trans onward)).isArmed_iff_unsettled (stillKnown onward)
      exact .unwound scheduled isArmed switched called remains
    next answer left unpanicked switched =>
      obtain ⟨rfl, rfl⟩ := Prod.mk.inj (Option.some.inj slept)
      have onward := switch_steps turns _ _ _ switched
      have cancelled := left.cancel_steps timer
      have disarmed := (recorded.steps (steps.trans onward)).isArmed_cancel timer
      have ended := recorded.steps ((steps.trans onward).trans cancelled)
      refine .disarmed scheduled isArmed switched unpanicked fun later further => ?_
      exact ended.gone_for_good (stillKnown (onward.trans cancelled)) disarmed further

end Run

/-- Wherever a run sleeps, in a callback too, and however the sleep is left, its timer is not armed afterwards. Only when
the panic of a callback goes through the sleep, the timer stays armed if it had not fired and nobody cancelled it. -/
theorem Bench.sleeps_left {α : Type} (front : Front) (memory : σ) (program : Program ν σ α) (turns : Nat) (before : Bench ν σ)
    (met : program.Meets turns (Bench.fresh front memory) before) (delay more : Nat) (reply : Except (Stop HubError) Unit)
    (after : Bench ν σ) (slept : Run.answer more (Run.switch more) (.sleep delay) before = some (reply, after)) :
    Run.SleepLeft more delay before after reply :=
  Run.sleep_left ((World.Recorded.fresh front memory).steps (Program.meets_steps met)) slept

/-- A timer that interrupts is due before the time is over. -/
def nap : Program Unit Unit (Except (Stop HubError) Unit) := do
  let _ ← Program.ask (.hub (.schedule 2 (.raise .blockingInCallback)))
  Program.ask (.sleep 5)

theorem nap_left : ∃ before after : Bench Unit Unit, nap.Meets 2 (Bench.fresh .direct ()) before ∧
    Run.answer 2 (Run.switch 2) (.sleep 5) before = some (.error (.failed .blockingInCallback), after) ∧
      ∀ later, World.Steps after later → later.isArmed 1 = false := by
  let before : Bench Unit Unit := ((Bench.fresh .direct ()).schedule 2 (.raise .blockingInCallback)).2
  have met : nap.Meets 2 (Bench.fresh .direct ()) before := .request rfl .here
  have slept : (Run.answer 2 (Run.switch 2) (.sleep 5) before).map Prod.fst =
      some (.error (.failed .blockingInCallback)) := by decide +kernel
  obtain ⟨⟨reply, after⟩, answered, rfl⟩ := Option.map_eq_some_iff.mp slept
  refine ⟨before, after, met, answered, ?_⟩
  have left := Bench.sleeps_left .direct () nap 2 before met 5 2 _ after answered
  have numbered : (before.schedule 5 .wake).1 = .ok 1 := by decide +kernel
  cases left with
  | disarmed scheduled _ _ _ gone =>
    rw [scheduled] at numbered
    obtain rfl := Except.ok.inj numbered
    exact gone

/-- A callback panics while the task sleeps, and the task sleeps again. -/
def shaken : Program Unit Unit Nat := do
  let _ ← Program.scheduleCall 0 "bomb" (Task.panic ⟨some "boom"⟩)
  let _ ← Program.ask (.sleep 1000)
  let _ ← Program.ask (.sleep 2000)
  Program.ask .clock

/-- The first sleep is over and its timer still armed, so the second sleep lasts only half its time. -/
theorem unwound_sleep_leaves_timer : ∃ before after ended : Bench Unit Unit,
    shaken.Meets 3 (Bench.fresh .direct ()) before ∧
      Run.answer 3 (Run.switch 3) (.sleep 1000) before = some (.error (.panicked ⟨some "boom"⟩), after) ∧
      (before.schedule 1000 .wake).1 = .ok 1 ∧ after.isArmed 1 = true ∧
      shaken.run 3 (Bench.fresh .direct ()) = some (1000, ended) := by
  let before : Bench Unit Unit := ((Bench.fresh .direct ()).schedule 0 (.call "bomb" (Task.panic ⟨some "boom"⟩))).2
  have met : shaken.Meets 3 (Bench.fresh .direct ()) before := .call rfl .here
  have slept : (Run.answer 3 (Run.switch 3) (.sleep 1000) before).map (fun (reply, after) => (reply, after.isArmed 1)) =
      some (.error (.panicked ⟨some "boom"⟩), true) := by decide +kernel
  have runs : (shaken.run 3 (Bench.fresh .direct ())).map Prod.fst = some 1000 := by decide +kernel
  obtain ⟨⟨reply, after⟩, answered, facts⟩ := Option.map_eq_some_iff.mp slept
  obtain ⟨rfl, isArmed⟩ := Prod.mk.inj facts
  obtain ⟨⟨clock, ended⟩, ran, rfl⟩ := Option.map_eq_some_iff.mp runs
  exact ⟨before, after, ended, met, answered, by decide +kernel, isArmed, ran⟩

end Testbench
