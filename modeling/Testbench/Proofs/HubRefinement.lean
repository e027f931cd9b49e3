import Testbench.Bench
import Testbench.Proofs.ConfinedRuns
import Testbench.Proofs.IdealHub
import Testbench.Proofs.RunAgreement
import Testbench.Proofs.RunEnds

/-! The hub against its ideal. A run of the hub is followed request by request and turn by turn: where the one takes the next
timer from its queue, the other takes the first of its list, and all that a task or a callback gets to see is the same. Only
the size of the heap tells what became of cancelled timers. -/

namespace Testbench

open LawfulQueue (armed Sound)

variable {ν σ : Type} {Q : Type 1} {α : Type}

/-- What an ideal hub with these timers would be. -/
def World.ideally (world : World Q ν σ) (agenda : Agenda (Action ν σ)) : Ideal ν σ where
  agenda
  clock := world.clock
  now := world.hub.now
  nextTimer := world.hub.nextTimer
  woken := world.hub.woken
  inCallback := world.hub.inCallback
  handles := world.hub.handles
  fired := world.firings.map fun firing => (firing.alarm, firing.clock)
  memory := world.memory

variable [TimerQueue (Action ν σ) Q] [LawfulQueue Q]

/-- The ideal hub has the same timers armed, and there is no other difference. -/
inductive Mirrors : World Q ν σ → Ideal ν σ → Prop where
  | intro {world : World Q ν σ} {agenda : Agenda (Action ν σ)} (direct : world.front = .direct)
      (tame : Tame Request.OfHub world) (same : (armed world.hub.queue).Perm agenda.timers) :
      Mirrors world (world.ideally agenda)

/-- The answers are the same, and the worlds go on together. -/
def Shows (answered : α × World Q ν σ) (ideally : α × Ideal ν σ) : Prop :=
  answered.1 = ideally.1 ∧ Mirrors answered.2 ideally.2

namespace Mirrors

variable {world : World Q ν σ} {ideal : Ideal ν σ}

theorem woken (mirrors : Mirrors world ideal) : ideal.woken = world.hub.woken := by cases mirrors; rfl

theorem inCallback (mirrors : Mirrors world ideal) : ideal.inCallback = world.hub.inCallback := by cases mirrors; rfl

theorem isArmed (mirrors : Mirrors world ideal) (timer : Nat) : world.isArmed timer = ideal.agenda.isArmed timer := by
  obtain ⟨direct, tame, same⟩ := mirrors
  apply Bool.eq_iff_iff.mpr
  refine (LawfulQueue.isArmed_iff timer tame.recorded.sound).trans (.trans ?_ Agenda.isArmed_iff.symm)
  exact exists_congr fun timer => and_congr_left fun _ => same.mem_iff

theorem armedCount (mirrors : Mirrors world ideal) :
    TimerQueue.armedCount world.hub.queue = ideal.agenda.timers.length := by
  obtain ⟨direct, tame, same⟩ := mirrors
  exact (LawfulQueue.armedCount_eq tame.recorded.sound).trans same.length_eq

theorem liveHandles (mirrors : Mirrors world ideal) : world.liveHandles = ideal.liveHandles := by
  have count := mirrors.armedCount
  obtain ⟨direct, tame, same⟩ := mirrors
  simp only [World.liveHandles, Ideal.liveHandles, count]
  rfl

omit [TimerQueue (Action ν σ) Q] [LawfulQueue Q] in
private theorem asks_call (label : String) {callback : Callback ν σ} (asks : Program.Asks Request.OfHub callback) :
    ∀ label' callback', Action.call label callback = .call label' callback' → Program.Asks Request.OfHub callback' := by
  intro label' callback' same
  cases same
  exact asks

theorem schedule (mirrors : Mirrors world ideal) (delay : Nat) {action : Action ν σ}
    (asks : ∀ label callback, action = .call label callback → Program.Asks Request.OfHub callback) :
    Shows (world.schedule delay action) (ideal.schedule delay action) := by
  obtain ⟨direct, tame, same⟩ := mirrors
  have tamed := tame.schedule delay asks
  have sound := tame.recorded.sound
  rename_i agenda
  revert tamed
  simp only [World.schedule, World.updateNow, Ideal.schedule, World.ideally]
  cases deadline? world.clock delay with
  | none => exact fun tamed => ⟨rfl, .intro direct tamed same⟩
  | some deadline =>
    have onto := (LawfulQueue.armed_arm deadline action sound).trans ((same.cons _).trans (agenda.arm_perm _ _ _).symm)
    exact fun tamed => ⟨rfl, .intro direct tamed onto⟩

theorem cancel (mirrors : Mirrors world ideal) (timer : Nat) : Shows (world.cancel timer) (ideal.cancel timer) := by
  have isArmed := mirrors.isArmed timer
  obtain ⟨direct, tame, same⟩ := mirrors
  have answered := tame.recorded.cancel_eq_isArmed timer
  have tamed : Tame Request.OfHub (world.cancel timer).2 := Tame.carries.cancel world timer tame
  have onto := (World.armed_cancel tame.recorded.sound timer).trans (same.filter _)
  refine ⟨answered.trans isArmed, ?_⟩
  revert tamed onto
  unfold World.cancel
  split
  · exact fun tamed onto => .intro direct tamed onto
  · exact fun tamed onto => .intro direct tamed onto

theorem onHub (mirrors : Mirrors world ideal) (request : Hub.Request α) :
    Shows (world.onHub request) (ideal.onHub request) := by
  have steps := world.onHub_steps request
  cases request with
  | schedule delay signal =>
    exact mirrors.schedule delay fun label callback calls => by cases signal <;> cases calls
  | cancel timer => exact mirrors.cancel timer
  | isArmed timer => exact ⟨mirrors.isArmed timer, mirrors⟩
  | liveHandles =>
    have live := mirrors.liveHandles
    obtain ⟨direct, tame, same⟩ := mirrors
    exact ⟨live, .intro direct (tame.past steps rfl) same⟩
  | hasProbe =>
    have probed : world.hasProbe = true := by cases mirrors with | intro direct => rw [World.hasProbe, direct]; rfl
    exact ⟨probed, mirrors⟩
  | switchCount =>
    have uncounted : world.switchCount = none := by cases mirrors with | intro direct => rw [World.switchCount, direct]
    exact ⟨uncounted, mirrors⟩
  | collect =>
    obtain ⟨direct, tame, same⟩ := mirrors
    have swept := LawfulQueue.armed_collect tame.recorded.sound
    have tamed := tame.keep steps fun held member => .inl (swept.mem_iff.mp member)
    exact ⟨rfl, .intro direct tamed (swept.trans same)⟩
  | now | updateNow | wake | setReclaim | openHandle | closeHandle =>
    obtain ⟨direct, tame, same⟩ := mirrors
    exact ⟨rfl, .intro direct (tame.past steps rfl) same⟩

theorem beginSwitch (mirrors : Mirrors world ideal) : Mirrors world.beginSwitch ideal := by
  obtain ⟨direct, tame, same⟩ := mirrors
  have tamed := tame.beginSwitch
  have begun : world.beginSwitch = world.note .switchBegun := by rw [World.beginSwitch, direct]
  rw [begun] at tamed ⊢
  exact .intro direct tamed same

theorem clearWoken (mirrors : Mirrors world ideal) : Mirrors world.clearWoken { ideal with woken := false } := by
  obtain ⟨direct, tame, same⟩ := mirrors
  exact .intro direct (tame.past (.single (.aside rfl rfl rfl rfl rfl rfl)) rfl) same

theorem setInCallback (mirrors : Mirrors world ideal) (inCallback : Bool) :
    Mirrors (world.setInCallback inCallback) { ideal with inCallback } := by
  obtain ⟨direct, tame, same⟩ := mirrors
  exact .intro direct (tame.past (.single (.aside rfl rfl rfl rfl rfl rfl)) rfl) same

/-- A wake that is taken at once. -/
theorem resumed (mirrors : Mirrors world ideal) (asleep : world.hub.woken = false) : Mirrors world.wake.clearWoken ideal := by
  have same : { world.hub with woken := false } = world.hub := by rw [← asleep]
  have still : world.wake.clearWoken = world := congrArg (fun hub => { world with hub }) same
  rwa [still]

theorem reportFailure (mirrors : Mirrors world ideal) (label : String) (error : HubError) :
    Mirrors (world.reportFailure label error) ideal := by
  obtain ⟨direct, tame, same⟩ := mirrors
  exact .intro direct (tame.past (world.reportFailure_steps label error) rfl) same

/-- The queue is empty only when the list is. -/
theorem takeNext_none (mirrors : Mirrors world ideal) {rest : World Q ν σ} (found : world.takeNext = (none, rest)) :
    ideal.agenda.next? = none ∧ Mirrors rest ideal := by
  obtain ⟨direct, tame, same⟩ := mirrors
  obtain ⟨-, nothing, still⟩ := World.takeNext_none tame.recorded.sound found
  have tamed := tame.keep (.single (.runOut found)) fun held member => by rw [still] at member; cases member
  obtain ⟨-, rfl⟩ := Prod.mk.inj found
  rw [nothing] at same
  exact ⟨Agenda.next?_eq_none_iff.mpr same.nil_eq.symm, .intro direct tamed (still ▸ same)⟩

/-- What the queue yields is first in the list. -/
theorem takeNext_some (mirrors : Mirrors world ideal) {alarm : Alarm} {action : Action ν σ} {rest : World Q ν σ}
    (found : world.takeNext = (some (alarm, action), rest)) :
    ∃ left, ideal.agenda.next? = some ((alarm, action), left) ∧ Mirrors (rest.arrive alarm) (ideal.fire alarm left) ∧
      ∀ label callback, action = .call label callback → Program.Asks Request.OfHub callback := by
  obtain ⟨direct, tame, same⟩ := mirrors
  obtain ⟨-, onto, least⟩ := World.takeNext_some tame.recorded.sound found
  obtain ⟨tamed, asks⟩ := tame.fire found
  obtain ⟨left, first, remaining⟩ := Agenda.next?_eq_some (onto.symm.trans same) least
  obtain ⟨-, rfl⟩ := Prod.mk.inj found
  exact ⟨left, first, .intro direct tamed remaining, asks⟩

/-- All that may be asked for but a switch. -/
theorem answered (mirrors : Mirrors world ideal) {asked : Request ν σ α} (hub : asked.OfHub) (stays : asked.maySwitch = false)
    {turns : Nat} {switch : Run.Switch Q ν σ} {reply : α} {after : World Q ν σ}
    (answered : Run.answer turns switch asked world = some (reply, after)) :
    ∃ mid, ideal.answer? asked = some (reply, mid) ∧ Mirrors after mid := by
  cases asked with
  | switch => cases stays
  | hub request =>
    obtain ⟨same, later⟩ := mirrors.onHub request
    rw [Option.some.inj answered] at same later
    exact ⟨(ideal.onHub request).2, congrArg some (Prod.ext same.symm rfl), later⟩
  | clock | «recall» =>
    cases answered
    exact ⟨ideal, by cases mirrors; rfl, mirrors⟩
  | burn nanos =>
    cases answered
    obtain ⟨direct, tame, same⟩ := mirrors
    exact ⟨_, rfl, .intro direct (tame.past (.single (.burn world nanos)) rfl) same⟩
  | store memory =>
    cases answered
    obtain ⟨direct, tame, same⟩ := mirrors
    exact ⟨_, rfl, .intro direct (tame.past (.single (.aside rfl rfl rfl rfl rfl rfl)) rfl) same⟩
  | _ => exact hub.elim

/-- A callback: every switch is refused to it, by the one hub as by the other. -/
theorem performed (mirrors : Mirrors world ideal) {program : Program ν σ α} (asks : program.Asks Request.OfHub)
    (inside : world.hub.inCallback = true) {turns : Nat} {loop : Run.Switch Q ν σ} {value : α} {after : World Q ν σ}
    (ran : Run.program turns (Run.guarded loop) program world = some (value, after)) :
    ∃ mid, Ideal.perform? program ideal = some (value, mid) ∧ Mirrors after mid := by
  induction program generalizing world ideal with
  | pure value => cases ran; exact ⟨ideal, rfl, mirrors⟩
  | request asked next ih =>
    have noted := mirrors.inCallback.trans inside
    simp only [Run.program] at ran
    split at ran
    · cases ran
    next reply mid answered =>
      suffices shown : ∃ later, ideal.answer? asked = some (reply, later) ∧ Mirrors mid later by
        obtain ⟨later, shown, mirrors⟩ := shown
        have still := (mirrors.inCallback.symm.trans (Ideal.inCallback_answer? shown)).trans noted
        obtain ⟨last, performed, mirrors⟩ := ih reply mirrors (asks.2 reply) still ran
        refine ⟨last, ?_, mirrors⟩
        simp only [Ideal.perform?, shown]
        exact performed
      cases stays : asked.maySwitch with
      | false => exact mirrors.answered asks.1 stays answered
      | true =>
        cases asked with
        | switch =>
          rw [Run.answer, Run.guarded_refuses inside] at answered
          cases answered
          exact ⟨ideal, by simp only [Ideal.answer?, noted, if_true], mirrors.beginSwitch⟩
        | sleep | wait | get => exact asks.1.elim
        | _ => cases stays
  | call delay label callback next _ ih =>
    obtain ⟨same, later⟩ := mirrors.schedule delay (asks_call label asks.1)
    have still := (Run.inCallback_schedule world delay (.call label callback)).trans inside
    obtain ⟨last, performed, mirrors⟩ := ih _ later (asks.2 _) still ran
    refine ⟨last, ?_, mirrors⟩
    simp only [Ideal.perform?, ← same]
    exact performed

omit [LawfulQueue Q] in
private theorem loop_woken (woken : world.hub.woken = true) {turns : Nat} {answer : Except (Stop HubError) Unit}
    {after : World Q ν σ} (ran : Run.loop turns world = some (answer, after)) :
    answer = .ok () ∧ after = world.clearWoken ∧ Run.loopCalls turns world = [] := by
  cases turns with
  | zero => cases ran
  | succ turns =>
    simp only [Run.loop, woken, if_true, Option.some.injEq, Prod.mk.injEq] at ran
    obtain ⟨rfl, rfl⟩ := ran
    simp only [Run.loopCalls, Run.turnCalls, Run.turn, woken, if_true, List.append_nil]
    exact ⟨trivial, trivial, trivial⟩

/-- The turns of the loop: the ideal hub runs the same callbacks, and leaves the switch in the same way. -/
theorem loop (mirrors : Mirrors world ideal) {turns : Nat} {answer : Except (Stop HubError) Unit} {after : World Q ν σ}
    (ran : Run.loop turns world = some (answer, after)) :
    ∃ last, ideal.Switches (Run.loopCalls turns world) answer last ∧ Mirrors after last := by
  induction turns generalizing world ideal with
  | zero => cases ran
  | succ turns ih =>
    have woken := mirrors.woken
    rw [Run.loop_succ] at ran
    simp only [Run.loopCalls]
    cases taken : Run.turn turns world with
    | none => rw [taken] at ran; cases ran
    | some turned =>
      rw [taken] at ran
      cases Run.turn_takes taken with
      | resumes isWoken =>
        cases ran
        simp only [Run.turnCalls, isWoken, if_true, List.append_nil]
        exact ⟨_, .resumes (woken.trans isWoken), mirrors.clearWoken⟩
      | runsOut asleep found =>
        cases ran
        obtain ⟨nothing, left⟩ := mirrors.takeNext_none found
        simp only [Run.turnCalls, asleep, Bool.false_eq_true, if_false, found, List.append_nil]
        exact ⟨_, .givesUp (woken.trans asleep) nothing, left⟩
      | wakes asleep found =>
        obtain ⟨left, first, fired, -⟩ := mirrors.takeNext_some found
        have still := fired.woken.symm.trans (woken.trans asleep)
        obtain ⟨rfl, rfl, none⟩ := loop_woken rfl ran
        simp only [Run.turnCalls, asleep, Bool.false_eq_true, if_false, found, none, List.append_nil]
        exact ⟨_, .wakes (woken.trans asleep) first, fired.resumed still⟩
      | raises asleep found =>
        cases ran
        obtain ⟨left, first, fired, -⟩ := mirrors.takeNext_some found
        simp only [Run.turnCalls, asleep, Bool.false_eq_true, if_false, found, List.append_nil]
        exact ⟨_, .raises (woken.trans asleep) first, fired⟩
      | @calls alarm label callback rest ended outcome asleep found called =>
        obtain ⟨left, first, fired, asks⟩ := mirrors.takeNext_some found
        obtain ⟨mid, performed, back⟩ := (fired.setInCallback true).performed (asks label callback rfl) rfl called
        have outside := back.setInCallback false
        simp only [Run.turnCalls, asleep, Bool.false_eq_true, if_false, found, called]
        rcases outcome with (error | panic) | _
        · obtain ⟨last, switches, mirrors⟩ := ih (outside.reportFailure label error) ran
          exact ⟨last, .returns (woken.trans asleep) first performed (fun _ => by simp) switches, mirrors⟩
        · cases ran
          exact ⟨_, .panics (woken.trans asleep) first performed, outside⟩
        · obtain ⟨last, switches, mirrors⟩ := ih outside ran
          exact ⟨last, .returns (woken.trans asleep) first performed (fun _ => by simp) switches, mirrors⟩

omit [LawfulQueue Q] in
private theorem callsIn_stays {asked : Request ν σ α} (stays : asked.maySwitch = false) {turns : Nat}
    {switch : Run.Switch Q ν σ} {calls : Run.Calling Q ν σ} : Run.callsIn turns switch calls asked world = [] := by
  cases asked with
  | switch | sleep | wait | get => cases stays
  | _ => rfl

theorem runs (mirrors : Mirrors world ideal) {program : Program ν σ α} (asks : program.Asks Request.OfHub) {turns : Nat}
    {value : α} {after : World Q ν σ} (ran : program.run turns world = some (value, after)) :
    ∃ last, ideal.Runs program (program.calls turns world) value last ∧ Mirrors after last := by
  unfold Program.run at ran
  unfold Program.calls
  induction program generalizing world ideal with
  | pure value => cases ran; exact ⟨ideal, .pure, mirrors⟩
  | request asked next ih =>
    simp only [Run.program] at ran
    split at ran
    · cases ran
    next reply mid answered =>
      simp only [Run.programCalls, answered]
      cases stays : asked.maySwitch with
      | false =>
        obtain ⟨later, shown, mirrors⟩ := mirrors.answered asks.1 stays answered
        obtain ⟨last, runs, mirrors⟩ := ih reply mirrors (asks.2 reply) ran
        rw [callsIn_stays stays, List.nil_append]
        exact ⟨last, .request shown runs, mirrors⟩
      | true =>
        cases asked with
        | switch =>
          have begun := mirrors.beginSwitch
          have marked := mirrors.inCallback
          simp only [Run.callsIn, Run.guardedCalls, Run.inCallback_beginSwitch]
          simp only [Run.answer, Run.switch, Run.guarded, Run.inCallback_beginSwitch] at answered
          cases inside : world.hub.inCallback with
          | true =>
            simp only [inside, if_true] at answered ⊢
            cases answered
            obtain ⟨last, runs, mirrors⟩ := ih _ begun (asks.2 _) ran
            exact ⟨last, .request (by simp only [Ideal.answer?, marked, inside, if_true]) runs, mirrors⟩
          | false =>
            simp only [inside, Bool.false_eq_true, if_false] at answered ⊢
            obtain ⟨later, switches, mirrors⟩ := begun.loop answered
            obtain ⟨last, runs, mirrors⟩ := ih reply mirrors (asks.2 reply) ran
            exact ⟨last, .switch (marked.trans inside) switches runs, mirrors⟩
        | sleep | wait | get => exact asks.1.elim
        | _ => cases stays
  | call delay label callback next _ ih =>
    obtain ⟨same, later⟩ := mirrors.schedule delay (asks_call label asks.1)
    obtain ⟨last, runs, mirrors⟩ := ih _ later (asks.2 _) ran
    exact ⟨last, .call (Prod.ext same.symm rfl) runs, mirrors⟩

end Mirrors

theorem Mirrors.fresh (memory : σ) : Mirrors (Bench.fresh .direct memory : Bench ν σ) (Ideal.fresh memory) := by
  have tame : Tame Request.OfHub (Bench.fresh .direct memory : Bench ν σ) :=
    ⟨World.Recorded.fresh .direct memory, fun _ member => (List.not_mem_nil member).elim⟩
  exact .intro rfl tame (.refl _)

/-- What can be told of the bench is what can be told of the ideal hub. -/
structure Matches (bench : Bench ν σ) (ideal : Ideal ν σ) : Prop where
  timers : bench.hub.queue.armed.Perm ideal.agenda.timers
  isArmed : ∀ timer, bench.isArmed timer = ideal.agenda.isArmed timer
  pendingTimers : bench.pendingTimers = ideal.agenda.timers.length
  liveHandles : bench.liveHandles = ideal.liveHandles
  clock : bench.clock = ideal.clock
  now : bench.hub.now = ideal.now
  nextTimer : bench.hub.nextTimer = ideal.nextTimer
  woken : bench.hub.woken = ideal.woken
  inCallback : bench.hub.inCallback = ideal.inCallback
  fired : bench.firings.map (fun firing => (firing.alarm, firing.clock)) = ideal.fired
  memory : bench.memory = ideal.memory

theorem Mirrors.matches {bench : Bench ν σ} {ideal : Ideal ν σ} (mirrors : Mirrors bench ideal) : Matches bench ideal where
  timers := by cases mirrors; assumption
  isArmed := mirrors.isArmed
  pendingTimers := mirrors.armedCount
  liveHandles := mirrors.liveHandles
  clock := by cases mirrors; rfl
  now := by cases mirrors; rfl
  nextTimer := by cases mirrors; rfl
  woken := by cases mirrors; rfl
  inCallback := by cases mirrors; rfl
  fired := by cases mirrors; rfl
  memory := by cases mirrors; rfl

section

variable {world : World Q ν σ}

omit [LawfulQueue Q] in
theorem World.schedule_panicked {delay : Nat} {action : Action ν σ} {panic : Panic} {after : World Q ν σ}
    (refused : world.schedule delay action = (.error panic, after)) :
    after.hub.queue = world.hub.queue ∧ after.hub.journal = world.hub.journal := by
  simp only [World.schedule, World.updateNow] at refused
  split at refused
  · obtain ⟨-, rfl⟩ := Prod.mk.inj refused
    exact ⟨rfl, rfl⟩
  · cases refused

namespace Run

omit [LawfulQueue Q] in
theorem Leaves.last_turn {turns : Nat} {head after : World Q ν σ} {ending : Ending}
    (leaves : Leaves turns world head ending after) :
    ∃ left, turn left head = some (.leaves ending after) ∧ World.Steps world head := by
  induction leaves with
  | @now turns _ _ _ left => exact ⟨turns, left, .refl⟩
  | later stayed _ ih =>
    obtain ⟨left, ran, steps⟩ := ih
    exact ⟨left, ran, (turn_steps (loop_steps _) stayed).trans steps⟩

/-- The hub gives up when there is nothing to wait for. A timer can raise the same error, but that is another ending. -/
theorem turn_gaveUp_iff (sound : Sound world.hub.nextTimer world.hub.queue) {turns : Nat} {ending : Ending}
    {after : World Q ν σ} (left : turn turns world = some (.leaves ending after)) :
    ending = .gaveUp ↔ world.hub.woken = false ∧ armed world.hub.queue = [] := by
  have nonempty {timer : Alarm × Action ν σ} {rest : World Q ν σ} (found : world.takeNext = (some timer, rest)) :
      armed world.hub.queue ≠ [] := by
    intro empty
    have onto := (World.takeNext_some sound found).2.1
    rw [empty] at onto
    cases onto.nil_eq
  generalize last : Turn.leaves ending after = taken at left
  cases turn_takes left with
  | resumes woken => cases last; simp [woken]
  | runsOut unwoken found =>
    cases last
    obtain ⟨-, empty, -⟩ := World.takeNext_none sound found
    simp [unwoken, empty]
  | wakes => cases last
  | raises _ found => cases last; simp [nonempty found]
  | @calls _ _ _ _ _ outcome _ found =>
    rcases outcome with (error | panic) | _
    · cases last
    · cases last; simp [nonempty found]
    · cases last

end Run

end

/-- How the bench gives up and how it panics, and what is hidden of it. -/
structure Faithful (bench : Bench ν σ) : Prop where
  refuses : bench.hub.inCallback = true → ∀ turns,
    Run.switch turns bench = some (.error (.failed .blockingInCallback), bench.beginSwitch)
  /-- A switch is left at the head of a turn, with a loop exit of its own exactly if no wake is pending there and no timer
  armed. -/
  givesUp : bench.hub.inCallback = false → ∀ turns answer after, Run.switch turns bench = some (answer, after) →
    ∃ (head : Bench ν σ) (ending : Run.Ending), Run.Leaves turns bench.beginSwitch head ending after ∧
      answer = ending.answer ∧ (ending = .gaveUp ↔ head.hub.woken = false ∧ Bench.pendingTimers head = 0)
  panics : ∀ delay action panic after, bench.schedule delay action = (.error panic, after) →
    after.hub.queue = bench.hub.queue ∧ after.hub.journal = bench.hub.journal
  /-- Stale alarms in the heap, and when it is tidied up. -/
  hidden : ∀ (queue : LazyQueue (Action ν σ)) reclaim, queue.Sound bench.hub.nextTimer →
    queue.armed.Perm bench.hub.queue.armed → ∀ turns {β : Type} (program : Program ν σ β),
      RunsTogether Alike Eq (program.run turns bench) (program.run turns (bench.over queue reclaim))

theorem World.Recorded.faithful {bench : Bench ν σ} (recorded : bench.Recorded) : Faithful bench where
  refuses inside turns := Run.guarded_refuses inside (Run.loop turns)
  givesUp outside turns answer after ran := by
    simp only [Run.switch, Run.guarded, Run.inCallback_beginSwitch, outside, Bool.false_eq_true, if_false] at ran
    obtain ⟨head, ending, leaves, answered⟩ := Run.loop_eq_some_iff.mp ran
    obtain ⟨left, taken, steps⟩ := leaves.last_turn
    have sound := ((recorded.steps bench.beginSwitch_steps).steps steps).sound
    have count : Bench.pendingTimers head = (armed head.hub.queue).length := LawfulQueue.armedCount_eq sound
    exact ⟨head, ending, leaves, answered, by rw [Run.turn_gaveUp_iff sound taken, count, List.length_eq_zero_iff]⟩
  panics _ _ _ _ refused := World.schedule_panicked refused
  hidden queue reclaim sound same turns _ program :=
    program.run_agrees turns (.intro reclaim recorded.sound sound same.symm)

/-- The run of the program on the bench and on the ideal hub: the one ends, with the same answers and callbacks as the other,
which can do nothing else. -/
structure Refines (program : Program ν σ α) (bench : Bench ν σ) (ideal : Ideal ν σ) (calls : List Call) (value : α)
    (after : Bench ν σ) (last : Ideal ν σ) : Prop where
  ends : Run.ComesTo (fun turns => program.run turns) bench (value, after)
  called : ∀ turns, (program.run turns bench).isSome → program.calls turns bench = calls
  ideally : ∀ calls' value' last', ideal.Runs program calls' value' last' ↔ calls' = calls ∧ value' = value ∧ last' = last
  same : Matches after last

theorem Mirrors.refines {bench : Bench ν σ} {ideal : Ideal ν σ} (mirrors : Mirrors bench ideal) {program : Program ν σ α}
    (asks : program.Asks Request.OfHub) : ∃ calls value after last, Refines program bench ideal calls value after last := by
  have recorded : bench.Recorded := by cases mirrors with | intro _ tame => exact tame.recorded
  obtain ⟨value, after, comes, -⟩ := program.comesTo recorded
  obtain ⟨needed, ran⟩ := comes
  have enough := ran needed
  rw [if_pos (Nat.le_refl needed)] at enough
  obtain ⟨last, runs, reached⟩ := mirrors.runs asks enough
  refine ⟨program.calls needed bench, value, after, last, ⟨needed, ran⟩, fun turns ended => ?_, ?_, reached.matches⟩
  · obtain ⟨result, other⟩ := Option.isSome_iff_exists.mp ended
    obtain ⟨last', runs', -⟩ := mirrors.runs asks other
    exact (runs.unique runs').1
  · intro calls' value' last'
    refine ⟨fun other => runs.unique other, ?_⟩
    rintro ⟨rfl, rfl, rfl⟩
    exact runs

/-- Whatever tasks and callbacks ask of a fresh hub, it answers as the ideal hub does, and every run of theirs ends. What is
not said of the ideal hub holds of the other at every moment. -/
theorem Program.run_refines_ideal (memory : σ) (program : Program ν σ α) (asks : program.Asks Request.OfHub) :
    (∃ calls value after last, Refines program (Bench.fresh .direct memory) (Ideal.fresh memory) calls value after last) ∧
    ∀ turns moment, program.Meets turns (Bench.fresh .direct memory) moment → Faithful moment := by
  refine ⟨(Mirrors.fresh memory).refines asks, fun turns moment met => ?_⟩
  have recorded : moment.Recorded := (World.Recorded.fresh .direct memory).steps (Program.meets_steps met)
  exact recorded.faithful

/-- A timer is cancelled and the heap swept; of two callbacks due together the first wakes the task, and the second fails in
the switch after, before another panics. There is nothing left for a last switch. -/
def errands : Program Unit Nat (Bool × List (Except (Stop HubError) Unit) × Int) := do
  let _ ← Program.ask (.hub (.schedule 1 .wake))
  let cancelled ← Program.ask (.hub (.cancel 0))
  let _ ← Program.scheduleCall 2 "waking" (Task.ask (.hub .wake))
  let _ ← Program.scheduleCall 2 "blocking" (Task.attempt .switch)
  let _ ← Program.scheduleCall 3 "panicking" (Task.panic .capacityOverflow)
  Program.ask (.hub .collect)
  Program.ask (.hub .openHandle)
  let live ← Program.ask (.hub .liveHandles)
  let woken ← Program.ask .switch
  let unwound ← Program.ask .switch
  let last ← Program.ask .switch
  return (cancelled, [woken, unwound, last], live)

theorem errands_ask : errands.Asks Request.OfHub := by
  refine ⟨trivial, fun _ => ⟨trivial, fun _ => ⟨⟨trivial, fun _ => trivial⟩, fun _ => ?_⟩⟩⟩
  refine ⟨⟨trivial, fun _ => trivial⟩, fun _ => ⟨trivial, fun _ => ?_⟩⟩
  iterate 6 refine ⟨trivial, fun _ => ?_⟩
  trivial

deriving instance DecidableEq for Call

theorem errands_refine_ideal : errands.Asks Request.OfHub ∧ ∃ (after : Bench Unit Nat) (last : Ideal Unit Nat),
    Refines errands (Bench.fresh .direct 0) (Ideal.fresh 0)
      [⟨"waking", .ok ()⟩, ⟨"blocking", .error (.failed .blockingInCallback)⟩,
        ⟨"panicking", .error (.panicked .capacityOverflow)⟩]
      (true, [.ok (), .error (.panicked .capacityOverflow), .error (.failed .loopExit)], 4) after last ∧
    last.fired = [(⟨3, 3⟩, 3), (⟨2, 2⟩, 2), (⟨2, 1⟩, 2)] := by
  obtain ⟨⟨calls, value, after, last, refines⟩, -⟩ := Program.run_refines_ideal 0 errands errands_ask
  have answers : (errands.run 9 (Bench.fresh .direct 0)).map (·.1) =
      some (true, [.ok (), .error (.panicked .capacityOverflow), .error (.failed .loopExit)], 4) := by decide +kernel
  have fires : (errands.run 9 (Bench.fresh .direct 0)).map (·.2.firings.map fun firing => (firing.alarm, firing.clock)) =
      some [(⟨3, 3⟩, 3), (⟨2, 2⟩, 2), (⟨2, 1⟩, 2)] := by decide +kernel
  have called : errands.calls 9 (Bench.fresh .direct 0) =
      [⟨"waking", .ok ()⟩, ⟨"blocking", .error (.failed .blockingInCallback)⟩,
        ⟨"panicking", .error (.panicked .capacityOverflow)⟩] := by decide +kernel
  obtain ⟨⟨value', after'⟩, ran, rfl⟩ := Option.map_eq_some_iff.mp answers
  obtain ⟨rfl, rfl⟩ := Prod.mk.inj (refines.ends.unique 9 ran)
  obtain rfl := (refines.called 9 (Option.isSome_of_eq_some ran)).symm.trans called
  rw [ran] at fires
  exact ⟨errands_ask, after', last, refines, refines.same.fired.symm.trans (Option.some.inj fires)⟩

end Testbench
