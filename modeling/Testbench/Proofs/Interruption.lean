import Testbench.Proofs.HubTurn

/-! Waits that only timers can end. No callback is armed, so the task is resumed in vain by every timer that
wakes it, and the first timer that raises an error interrupts it. -/

namespace Testbench

open LawfulQueue (armed Sound)

variable {ν σ : Type} {Q : Type 1}

/-- Time has passed and timers have fired. -/
structure Beside (world after : World Q ν σ) : Prop where
  inCallback : after.hub.inCallback = world.hub.inCallback
  numbers : after.hub.nextTimer = world.hub.nextTimer
  timers : after.timers = world.timers
  events : after.events = world.events
  results : after.results = world.results

theorem Beside.trans {world next after : World Q ν σ} (first : Beside world next) (second : Beside next after) :
    Beside world after where
  inCallback := second.inCallback.trans first.inCallback
  numbers := second.numbers.trans first.numbers
  timers := second.timers.trans first.timers
  events := second.events.trans first.events
  results := second.results.trans first.results

theorem World.beside_beginSwitch (world : World Q ν σ) : Beside world world.beginSwitch ∧
    world.beginSwitch.hub.queue = world.hub.queue ∧ world.beginSwitch.hub.woken = world.hub.woken ∧
    world.beginSwitch.clock = world.clock := by
  unfold beginSwitch
  split <;> exact ⟨⟨rfl, rfl, rfl, rfl, rfl⟩, rfl, rfl, rfl⟩

variable [TimerQueue (Action ν σ) Q] {world after : World Q ν σ}

theorem World.beside_takeNext {timer : Option (Alarm × Action ν σ)} (found : world.takeNext = (timer, after)) :
    Beside world after ∧ after.clock = world.clock := by
  obtain ⟨-, rfl⟩ := Prod.mk.inj found
  exact ⟨⟨rfl, rfl, rfl, rfl, rfl⟩, rfl⟩

variable [LawfulQueue Q]

structure Undisturbed (world : World Q ν σ) : Prop where
  sound : Sound world.hub.nextTimer world.hub.queue
  outside : world.hub.inCallback = false
  timers : ∀ timer ∈ armed world.hub.queue, timer.2 = .wake ∨ ∃ error, timer.2 = .raise error

theorem Undisturbed.of_hub_eq (undisturbed : Undisturbed world) (same : after.hub = world.hub) : Undisturbed after where
  sound := same ▸ undisturbed.sound
  outside := same ▸ undisturbed.outside
  timers := same ▸ undisturbed.timers

structure Fired (timer : Alarm × Action ν σ) (world after : World Q ν σ) : Prop where
  onto : (armed world.hub.queue).Perm (timer :: armed after.hub.queue)
  least : ∀ other ∈ armed after.hub.queue, timer.1 < other.1
  clock : after.clock = max world.clock timer.1.deadline

/-- How a switch goes without callbacks. -/
inductive Switched (world after : World Q ν σ) : Except (Stop HubError) Unit → Prop where
  | woken (pending : world.hub.woken = true) (spent : after.hub.woken = false)
      (same : armed after.hub.queue = armed world.hub.queue) (clock : after.clock = world.clock) :
      Switched world after (.ok ())
  | wake {alarm : Alarm} (spent : after.hub.woken = false) (fired : Fired (alarm, .wake) world after) :
      Switched world after (.ok ())
  | raise {alarm : Alarm} {error : HubError} (fired : Fired (alarm, .raise error) world after) :
      Switched world after (.error (.failed error))
  | gaveUp (empty : armed world.hub.queue = []) (still : armed after.hub.queue = []) :
      Switched world after (.error (.failed .loopExit))

/-- Two turns suffice: the second resumes the task when the timer of the first has woken it. -/
theorem Run.loop_undisturbed (world : World Q ν σ) (sound : Sound world.hub.nextTimer world.hub.queue)
    (timers : ∀ timer ∈ armed world.hub.queue, timer.2 = .wake ∨ ∃ error, timer.2 = .raise error) (turns : Nat) :
    ∃ answer after, Run.loop (turns + 2) world = some (answer, after) ∧ Beside world after ∧
      Sound after.hub.nextTimer after.hub.queue ∧ Switched world after answer := by
  rw [loop_succ, turn]
  cases woken : world.hub.woken with
  | true => exact ⟨_, _, rfl, ⟨rfl, rfl, rfl, rfl, rfl⟩, sound, .woken woken rfl rfl rfl⟩
  | false =>
    rcases found : world.takeNext with ⟨_ | ⟨alarm, action⟩, rest⟩
    · obtain ⟨restSound, empty, still⟩ := World.takeNext_none sound found
      exact ⟨_, rest, rfl, (World.beside_takeNext found).1, restSound, .gaveUp empty still⟩
    · obtain ⟨restSound, onto, least⟩ := World.takeNext_some sound found
      obtain ⟨beside, clock⟩ := World.beside_takeNext found
      have arrived : (rest.arrive alarm).clock = max world.clock alarm.deadline := congrArg (max · alarm.deadline) clock
      obtain rfl | ⟨error, rfl⟩ : action = .wake ∨ ∃ error, action = .raise error :=
        timers (alarm, action) (onto.mem_iff.mpr (List.mem_cons_self ..))
      · refine ⟨.ok (), (rest.arrive alarm).wake.clearWoken, loop_succ turns _, ?_, restSound, .wake rfl ⟨onto, least, arrived⟩⟩
        exact beside.trans ⟨rfl, rfl, rfl, rfl, rfl⟩
      · refine ⟨_, rest.arrive alarm, rfl, ?_, restSound, .raise ⟨onto, least, arrived⟩⟩
        exact beside.trans ⟨rfl, rfl, rfl, rfl, rfl⟩

/-- What is left of the timers when a switch returns. -/
theorem Switched.kept {answer : Except (Stop HubError) Unit} (switched : Switched world after answer) :
    ∀ timer ∈ armed after.hub.queue, timer ∈ armed world.hub.queue := by
  intro timer member
  cases switched with
  | woken _ _ same _ => rwa [same] at member
  | wake _ fired | raise fired => exact fired.onto.mem_iff.mpr (List.mem_cons_of_mem _ member)
  | gaveUp _ still => rw [still] at member; cases member

theorem Run.switch_undisturbed (undisturbed : Undisturbed world) {turns : Nat} (enough : 2 ≤ turns) :
    ∃ answer after, Run.switch turns world = some (answer, after) ∧ Beside world after ∧ Undisturbed after ∧
      Switched world after answer := by
  obtain ⟨turns, rfl⟩ := Nat.exists_eq_add_of_le' enough
  obtain ⟨begun, queue, woken, clock⟩ := world.beside_beginSwitch
  have allowed := begun.inCallback.trans undisturbed.outside
  obtain ⟨answer, after, ran, beside, sound, switched⟩ := Run.loop_undisturbed world.beginSwitch
    (by rw [begun.numbers, queue]; exact undisturbed.sound) (by rw [queue]; exact undisturbed.timers) turns
  have along : Switched world after answer := by
    cases switched with
    | woken pending spent same still => exact .woken (woken ▸ pending) spent (queue ▸ same) (still.trans clock)
    | wake spent fired => exact .wake spent ⟨queue ▸ fired.onto, fired.least, clock ▸ fired.clock⟩
    | raise fired => exact .raise ⟨queue ▸ fired.onto, fired.least, clock ▸ fired.clock⟩
    | gaveUp empty still => exact .gaveUp (queue ▸ empty) still
  refine ⟨answer, after, ?_, begun.trans beside, ⟨sound, ?_, ?_⟩, along⟩
  · simp only [Run.switch, guarded, allowed]
    exact ran
  · exact beside.inCallback.trans allowed
  · exact fun timer member => undisturbed.timers timer (along.kept timer member)

/-- The error that ends a wait, and what it leaves of the timers. -/
inductive Interrupted (world after : World Q ν σ) : HubError → Prop where
  | raised {alarm : Alarm} {error : HubError} (first : (alarm, .raise error) ∈ armed world.hub.queue)
      (others : ∀ other error', (other, .raise error') ∈ armed world.hub.queue →
        other = alarm ∨ alarm < other ∧ (other, .raise error') ∈ armed after.hub.queue)
      (kept : ∀ timer ∈ armed after.hub.queue, timer ∈ armed world.hub.queue ∧ timer.1 ≠ alarm)
      (clock : after.clock = max world.clock alarm.deadline) : Interrupted world after error
  | gaveUp (wakes : ∀ timer ∈ armed world.hub.queue, timer.2 = .wake) (still : armed after.hub.queue = []) :
      Interrupted world after .loopExit

namespace Interrupted

variable {next : World Q ν σ} {error : HubError}

/-- A timer woke the task in vain before. -/
theorem after_wake {alarm : Alarm} (interrupted : Interrupted next after error) (fired : Fired (alarm, .wake) world next) :
    Interrupted world after error := by
  have left (other : Alarm) (error : HubError) (member : (other, .raise error) ∈ armed world.hub.queue) :
      (other, .raise error) ∈ armed next.hub.queue := by
    obtain same | member := List.mem_cons.mp (fired.onto.mem_iff.mp member)
    · cases same
    · exact member
  have before (timer : Alarm × Action ν σ) (member : timer ∈ armed next.hub.queue) : timer ∈ armed world.hub.queue :=
    fired.onto.mem_iff.mpr (List.mem_cons_of_mem _ member)
  cases interrupted with
  | @raised later _ first others kept clock =>
    refine .raised (before _ first) (fun other error' member => others other error' (left other error' member)) ?_ ?_
    · exact fun timer member => ⟨before timer (kept timer member).1, (kept timer member).2⟩
    · rw [clock, fired.clock, Nat.max_assoc, Nat.max_eq_right (Alarm.deadline_le (fired.least _ first))]
  | gaveUp wakes still =>
    refine .gaveUp (fun timer member => ?_) still
    obtain rfl | member := List.mem_cons.mp (fired.onto.mem_iff.mp member)
    · rfl
    · exact wakes timer member

theorem of_same (interrupted : Interrupted next after error) (same : armed next.hub.queue = armed world.hub.queue)
    (clock : next.clock = world.clock) : Interrupted world after error := by
  cases interrupted with
  | raised first others kept reached =>
    rw [same] at first others kept
    rw [clock] at reached
    exact .raised first others kept reached
  | gaveUp wakes still => rw [same] at wakes; exact .gaveUp wakes still

theorem of_raise {alarm : Alarm} (fired : Fired (alarm, .raise error) world after) : Interrupted world after error := by
  refine .raised (fired.onto.mem_iff.mpr (List.mem_cons_self ..)) ?_ ?_ fired.clock
  · intro other error' member
    obtain same | member := List.mem_cons.mp (fired.onto.mem_iff.mp member)
    · exact .inl (congrArg Prod.fst same)
    · exact .inr ⟨fired.least _ member, member⟩
  · intro timer member
    refine ⟨fired.onto.mem_iff.mpr (List.mem_cons_of_mem _ member), fun same => ?_⟩
    exact Alarm.lt_irrefl alarm (same ▸ fired.least timer member)

end Interrupted

namespace Run

/-- A wait for an event or for a result, neither of which comes, ends with the error. -/
structure Breaks (turns left : Nat) (world : World Q ν σ) (error : HubError) (after : World Q ν σ) : Prop where
  waits : ∀ id, (world.event id).isSet = false →
    untilSet (Run.switch turns) id left world = some (.error (.failed error), after)
  gets : ∀ id, (world.result id).value = none →
    untilReady (Run.switch turns) id left world = some (.error (.failed error), after)

variable {turns left : Nat} {next : World Q ν σ} {error : HubError}

omit [LawfulQueue Q]

theorem Breaks.now (ran : Run.switch turns world = some (.error (.failed error), after)) :
    Breaks turns (left + 1) world error after where
  waits id unset := by simp only [untilSet, ran]
  gets id unready := by simp only [untilReady, ran]

theorem Breaks.again (ran : Run.switch turns world = some (.ok (), next)) (beside : Beside world next)
    (breaks : Breaks turns left next error after) : Breaks turns (left + 1) world error after where
  waits id unset := by
    have still : (next.event id).isSet = false := by rw [World.event, beside.events]; exact unset
    simp only [untilSet, ran, still]
    exact breaks.waits id still
  gets id unready := by
    have still : (next.result id).value = none := by rw [World.result, beside.results]; exact unready
    simp only [untilReady, ran, still]
    exact breaks.gets id still

variable [LawfulQueue Q]

/-- The induction is on the timers that can still wake the task in vain, and on a wake that came before the wait. -/
theorem interrupted (undisturbed : Undisturbed world) (enough : 2 ≤ turns)
    (room : (armed world.hub.queue).length + world.hub.woken.toNat < left) :
    ∃ error after, Beside world after ∧ Undisturbed after ∧ Interrupted world after error ∧
      Breaks turns left world error after := by
  induction left generalizing world with
  | zero => omega
  | succ left ih =>
    obtain ⟨answer, next, ran, beside, still, switched⟩ := switch_undisturbed undisturbed enough
    cases switched with
    | woken pending spent same clock =>
      rw [pending, Bool.toNat_true] at room
      have fewer : (armed next.hub.queue).length + next.hub.woken.toNat < left := by
        rw [same, spent, Bool.toNat_false]
        omega
      obtain ⟨error, after, beside', last, interrupted, breaks⟩ := ih still fewer
      exact ⟨error, after, beside.trans beside', last, interrupted.of_same same clock, breaks.again ran beside⟩
    | wake spent fired =>
      rw [fired.onto.length_eq, List.length_cons] at room
      have fewer : (armed next.hub.queue).length + next.hub.woken.toNat < left := by
        rw [spent, Bool.toNat_false]
        omega
      obtain ⟨error, after, beside', last, interrupted, breaks⟩ := ih still fewer
      exact ⟨error, after, beside.trans beside', last, interrupted.after_wake fired, breaks.again ran beside⟩
    | raise fired => exact ⟨_, next, beside, still, .of_raise fired, .now ran⟩
    | gaveUp empty none =>
      refine ⟨_, next, beside, still, .gaveUp (fun timer member => ?_) none, .now ran⟩
      rw [empty] at member
      cases member

end Run

end Testbench
