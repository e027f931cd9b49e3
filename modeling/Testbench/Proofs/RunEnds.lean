import Testbench.Proofs.PendingWork
import Testbench.Proofs.RunBounds

/-! Every run ends. A callback is over after one turn, since every switch is refused to it. A switch ends because each
turn leaves less to do, and so does a wait, because each of its switches that a task comes back from leaves less to do
too: the callbacks that fire may arm others, and wakes may be spurious, but not for ever. -/

namespace Testbench

open World (Steps Recorded)

variable {ν σ : Type} {Q : Type 1} [TimerQueue (Action ν σ) Q]

namespace Run

section

variable (loop : Switch Q ν σ) {world : World Q ν σ} {α : Type} (inside : world.hub.inCallback = true)

include inside

omit [TimerQueue (Action ν σ) Q] in
theorem untilPresent_inside (watched : Watched) :
    untilPresent (guarded loop) watched 1 world = some (.error (.failed .blockingInCallback), world.beginSwitch) := by
  simp only [untilPresent, guarded_refuses inside loop]

theorem ends_answer_inside (request : Request ν σ α) :
    ∃ reply after, answer 1 (guarded loop) request world = some (reply, after) ∧ after.hub.inCallback = true := by
  have ended : (answer 1 (guarded loop) request world).isSome := by
    cases request with
    | switch => simp only [answer, guarded_refuses inside loop, Option.isSome_some]
    | sleep delay =>
      have still := inCallback_schedule world delay .wake
      simp only [answer, sleep]
      split
      · rfl
      next answered =>
        rw [answered] at still
        simp only [guarded_refuses (still.trans inside) loop, Option.isSome_some]
    | wait id limit =>
      have still : SameCallback [] world (world.startLimit limit).2 := carries_sameCallback.startLimit world limit
      simp only [answer, wait, untilSet_eq]
      split
      · rfl
      split
      · rfl
      next timeout started answered =>
        rw [answered] at still
        have waiting : (started.addEventWaiter id).hub.inCallback = true := still.trans inside
        simp only [untilPresent_inside loop waiting]
        split <;> rfl
    | get id limit =>
      have still : SameCallback [] world (world.startLimit limit).2 := carries_sameCallback.startLimit world limit
      simp only [answer, get, untilReady_eq]
      split
      · rfl
      split
      · rfl
      next timeout started answered =>
        rw [answered] at still
        have waiting : (started.addResultWaiter id).hub.inCallback = true := still.trans inside
        simp only [untilPresent_inside loop waiting, Option.bind_some, Option.isSome_some]
    | _ => rfl
  obtain ⟨⟨reply, after⟩, answered⟩ := Option.isSome_iff_exists.mp ended
  have passes := carries_sameCallback.answerInside callbacks_sameCallback trivial world reply after answered
  exact ⟨reply, after, answered, (passes inside).1⟩

theorem ends_program_inside (program : Program ν σ α) :
    ∃ result, Run.program 1 (guarded loop) program world = some result := by
  induction program generalizing world with
  | pure value => exact ⟨_, rfl⟩
  | request asked next ih =>
    obtain ⟨reply, after, answered, still⟩ := ends_answer_inside loop inside asked
    simp only [Run.program, answered]
    exact ih reply still
  | call delay label callback next _ ih => exact ih _ ((inCallback_schedule world delay _).trans inside)

end

/-- One turn left is enough for the callback that a turn runs: its waits are over at the first switch. -/
theorem ends_turn (world : World Q ν σ) : ∃ taken, turn 1 world = some taken := by
  unfold turn
  split
  · exact ⟨_, rfl⟩
  split
  · exact ⟨_, rfl⟩
  next alarm action rest found =>
    cases action with
    | wake | raise => exact ⟨_, rfl⟩
    | call label callback =>
      have inside : ((rest.arrive alarm).setInCallback true).hub.inCallback = true := rfl
      obtain ⟨result, called⟩ := ends_program_inside (loop 1) inside callback
      simp only [fire, called, Option.map_some]
      exact ⟨_, rfl⟩

section

variable [LawfulQueue Q] {world after : World Q ν σ}

theorem ends_loop (recorded : Recorded world) : ∃ turns result, loop turns world = some result := by
  have descends : WellFounded (World.Lighter : World Q ν σ → World Q ν σ → Prop) := World.wellFounded_lighter
  induction world using descends.induction with
  | _ world ih =>
    obtain ⟨taken, ran⟩ := ends_turn world
    cases taken with
    | leaves ending after => exact ⟨2, _, by rw [loop_succ, ran]⟩
    | stays next =>
      have steps := turn_steps (loop_steps 1) ran
      obtain ⟨turns, result, later⟩ := ih next (lighter_turn recorded ran) (recorded.steps steps)
      refine ⟨max 1 turns + 1, result, ?_⟩
      rw [loop_succ, turn_within (within_loop (Nat.le_max_left 1 turns)) (Nat.le_max_left 1 turns) ran]
      exact within_loop (Nat.le_max_right 1 turns) next result later

theorem ends_switch (recorded : Recorded world) : ∃ turns result, switch turns world = some result := by
  obtain ⟨turns, result, ran⟩ := ends_loop (recorded.steps world.beginSwitch_steps)
  simp only [switch, guarded]
  split
  · exact ⟨0, _, rfl⟩
  · exact ⟨turns, result, ran⟩

theorem ends_untilPresent (recorded : Recorded world) (watched : Watched) :
    ∃ turns result, untilPresent (switch turns) watched turns world = some result := by
  have descends : WellFounded (World.Lighter : World Q ν σ → World Q ν σ → Prop) := World.wellFounded_lighter
  induction world using descends.induction with
  | _ world ih =>
    obtain ⟨turns, ⟨stop | ⟨⟩, mid⟩, switched⟩ := ends_switch recorded
    · exact ⟨turns + 1, (.error stop, mid), by simp only [untilPresent, within_switch (Nat.le_succ turns) _ _ switched]⟩
    · -- What is waited for may not be there yet, but less is left to do.
      have steps := switch_steps turns world _ mid switched
      obtain ⟨more, result, later⟩ := ih mid (lighter_switch recorded switched) (recorded.steps steps)
      have enough : turns ≤ max turns more + 1 := Nat.le_succ_of_le (Nat.le_max_left turns more)
      have enough' : more ≤ max turns more + 1 := Nat.le_succ_of_le (Nat.le_max_right turns more)
      refine ⟨max turns more + 1, if mid.present watched then (.ok (), mid) else result, ?_⟩
      simp only [untilPresent, within_switch enough _ _ switched]
      split
      · rfl
      · exact within_untilPresent (within_switch enough') (Nat.le_max_right turns more) watched mid result later

/-- Whatever is asked for is answered in the end. -/
theorem ends_answer (recorded : Recorded world) {α : Type} (request : Request ν σ α) :
    ∃ turns result, answer turns (switch turns) request world = some result := by
  suffices ended : ∃ turns, (answer turns (switch turns) request world).isSome from
    ended.imp fun _ => Option.isSome_iff_exists.mp
  cases request with
  | switch =>
    obtain ⟨turns, result, switched⟩ := ends_switch recorded
    exact ⟨turns, by rw [answer, switched, Option.isSome_some]⟩
  | sleep delay =>
    have steps : Steps world (world.schedule delay .wake).2 := .single (.schedule world delay .wake)
    obtain ⟨turns, ⟨reply, last⟩, switched⟩ := ends_switch (recorded.steps steps)
    refine ⟨turns, ?_⟩
    simp only [answer, sleep]
    split
    · rfl
    next answered =>
      rw [answered] at switched
      simp only [switched]
      rcases reply with (error | panic) | _ <;> rfl
  | wait id limit =>
    have steps : Steps world ((world.startLimit limit).2.addEventWaiter id) :=
      .tail (world.startLimit_steps limit) (.aside rfl rfl rfl rfl rfl rfl)
    obtain ⟨turns, ⟨reply, last⟩, switched⟩ := ends_untilPresent (recorded.steps steps) (.event id)
    refine ⟨turns, ?_⟩
    simp only [answer, wait, untilSet_eq]
    split
    · rfl
    split
    · rfl
    next answered =>
      rw [answered] at switched
      simp only [switched]
      rcases reply with (error | panic) | _
      · dsimp only
        split <;> rfl
      · rfl
      · rfl
  | get id limit =>
    have steps : Steps world ((world.startLimit limit).2.addResultWaiter id) :=
      .tail (world.startLimit_steps limit) (.aside rfl rfl rfl rfl rfl rfl)
    obtain ⟨turns, ⟨reply, last⟩, switched⟩ := ends_untilPresent (recorded.steps steps) (.result id)
    refine ⟨turns, ?_⟩
    simp only [answer, get, untilReady_eq]
    split
    · rfl
    split
    · rfl
    next answered =>
      rw [answered] at switched
      simp only [switched, Option.bind_some]
      rcases reply with (error | panic) | _
      · rfl
      · rfl
      · obtain ⟨value, stored⟩ := Option.isSome_iff_exists.mp (present_of_untilPresent switched)
        simp only [stored, Option.map_some]
        cases value <;> rfl
  | _ => exact ⟨0, rfl⟩

theorem ends_program (recorded : Recorded world) {α : Type} (program : Program ν σ α) :
    ∃ turns result, program.run turns world = some result := by
  unfold Program.run
  induction program generalizing world with
  | pure value => exact ⟨0, _, rfl⟩
  | request asked next ih =>
    obtain ⟨turns, ⟨reply, mid⟩, answered⟩ := ends_answer recorded asked
    obtain ⟨more, result, later⟩ := ih reply (recorded.steps (answer_steps (switch_steps turns) turns asked _ _ _ answered))
    have first := within_ask (Nat.le_max_left turns more) asked world _ answered
    have second := within_run (Nat.le_max_right turns more) (next reply) mid result later
    refine ⟨max turns more, result, ?_⟩
    simp only [Run.program, first]
    exact second
  | call delay label callback next _ ih =>
    have scheduled := recorded.steps (.single (.schedule world delay (.call label callback)))
    exact ih _ scheduled

end

end Run

section

variable [LawfulQueue Q] {world after : World Q ν σ}

/-- Timers fired on the way, none of them twice, nor one that had fired before. -/
def World.FiresOnce (world after : World Q ν σ) : Prop :=
  ∃ fired, after.firings = fired ++ world.firings ∧ (after.firings.map (·.alarm.id)).Nodup

theorem World.Recorded.firesOnce (recorded : Recorded world) (steps : Steps world after) : world.FiresOnce after := by
  obtain ⟨fired, grown⟩ := steps.journal_grows.filterMap HubEvent.firing?
  exact ⟨fired, grown.symm, (recorded.steps steps).orderly.once.2.1⟩

/-- Every run of a program ends. -/
theorem Program.comesTo (recorded : Recorded world) {α : Type} (program : Program ν σ α) :
    ∃ value after, Run.ComesTo (fun turns => program.run turns) world (value, after) ∧ world.FiresOnce after := by
  obtain ⟨turns, ⟨value, after⟩, ran⟩ := Run.ends_program recorded program
  exact ⟨value, after, Run.comesTo_of_within (fun le => Run.within_run le program) ran,
    recorded.firesOnce (Program.run_steps ran)⟩

theorem Request.comesTo (recorded : Recorded world) {α : Type} (request : Request ν σ α) :
    ∃ reply after, Run.ComesTo (fun turns => Run.answer turns (Run.switch turns) request) world (reply, after) ∧
      world.FiresOnce after := by
  obtain ⟨turns, ⟨reply, after⟩, answered⟩ := Run.ends_answer recorded request
  have steps := Run.answer_steps (Run.switch_steps turns) turns request _ _ _ answered
  exact ⟨reply, after, Run.comesTo_of_within (fun le => Run.within_ask le request) answered, recorded.firesOnce steps⟩

end

/-- At every moment of every run of a fresh hub, whatever is asked for next is answered in the end, be it a switch, a sleep
or a wait, and on the way no timer fires twice. Callbacks may arm callbacks, but a program is a tree without infinite
branches, and so is what it can ever arm. -/
theorem Bench.every_request_ends {α β : Type} (front : Front) (memory : σ) (past : Program ν σ α) (turns : Nat)
    (moment : Bench ν σ) (met : past.Meets turns (Bench.fresh front memory) moment) (request : Request ν σ β) :
    ∃ reply after, Run.ComesTo (fun turns => Run.answer turns (Run.switch turns) request) moment (reply, after) ∧
      moment.FiresOnce after :=
  Request.comesTo ((Recorded.fresh front memory).steps (Program.meets_steps met)) request

/-- A callback wakes the task for nothing, and arms the one that sets the event. -/
def relayed : Program Unit Unit Unit := do
  let event ← Program.ask .newEvent
  let _ ← Program.scheduleCall 5 "first" do
    Program.ask (.hub .wake)
    let _ ← Program.scheduleCall 2 "second" (Task.ask (.setEvent event))
    return .ok ()
  let _ ← Program.ask (.hub (.schedule 3 .wake))

theorem relayed_wait_ends : ∃ moment after : Bench Unit Unit, relayed.Meets 1 (Bench.fresh .direct ()) moment ∧
    Run.ComesTo (fun turns => Run.wait turns (Run.switch turns) ⟨0⟩ .never) moment (.ok .set, after) ∧
    after.firings.map (·.alarm.id) = [2, 0, 1] ∧ moment.FiresOnce after := by
  have sets : ((relayed.run 1 (Bench.fresh .direct ())).bind fun begun =>
      (Run.wait 4 (Run.switch 4) ⟨0⟩ .never begun.2).map fun waited =>
        (waited.1, waited.2.firings.map (·.alarm.id))) = some (.ok .set, [2, 0, 1]) := by decide +kernel
  obtain ⟨⟨⟨⟩, moment⟩, ran, waits⟩ := Option.bind_eq_some_iff.mp sets
  obtain ⟨⟨reply, after⟩, waited, told⟩ := Option.map_eq_some_iff.mp waits
  obtain ⟨rfl, fired⟩ := Prod.mk.inj told
  have met := Program.meets_end ran
  obtain ⟨reply, last, comes, once⟩ := Bench.every_request_ends .direct () relayed 1 moment met (.wait ⟨0⟩ .never)
  obtain ⟨rfl, rfl⟩ := Prod.mk.inj (comes.unique 4 waited)
  exact ⟨moment, after, met, comes, fired, once⟩

end Testbench
