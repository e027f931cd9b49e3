import Testbench.Contract
import Testbench.Proofs.LimitedWaits

/-! The hub's own waits as the operations of contracts. However often the task is woken in vain, and however late the
timers are that wake it, a wait for an event and a wait for a result end when their time is over, and no timer is left
that was not there before. -/

namespace Testbench

open LawfulQueue (armed Sound)

variable {ν σ : Type} {Q : Type 1} [TimerQueue (Action ν σ) Q] {world begun mid after : World Q ν σ} {turns : Nat}

namespace Contract

/-- A wait for an event answers nothing when its time is over, and this value when the event was set. -/
def waitsFor (id : EventId) (value : ν) (limit : WaitLimit) : Task ν σ Failure (Option ν) := do
  match ← Task.ofHub (.attempt (.wait id limit)) with
  | .set => return some value
  | .timedOut => return none

/-- The value of a result, or the failure that comes in its place. -/
def getsFrom (id : ResultId) (limit : WaitLimit) : Task ν σ Failure ν := Task.ofHub (.attempt (.get id limit))

section

variable {limit : WaitLimit} {error : HubError}

theorem waitsFor_timedOut {id : EventId} (waited : Run.wait turns (Run.switch turns) id limit world = some (.ok .timedOut, after))
    (value : ν) : (waitsFor id value limit).run.run turns world = some (.ok none, after) := by
  simp only [waitsFor, Task.ofHub, Task.run_bind, Task.run_mapFailure, Task.run_attempt, Run.answer, waited]
  rfl

theorem waitsFor_failed {id : EventId} (waited : Run.wait turns (Run.switch turns) id limit world = some (.error (.failed error), after))
    (value : ν) : (waitsFor id value limit).run.run turns world = some (.error (.failed (.hub error)), after) := by
  simp only [waitsFor, Task.ofHub, Task.run_bind, Task.run_mapFailure, Task.run_attempt, Run.answer, waited]
  rfl

theorem getsFrom_failed {id : ResultId} (got : Run.get turns (Run.switch turns) id limit world = some (.error (.failed error), after)) :
    (getsFrom id limit : Task ν σ Failure ν).run.run turns world = some (.error (.failed (.hub error)), after) := by
  simp only [getsFrom, Task.ofHub, Task.run_mapFailure, Task.run_attempt, Run.answer, got]
  rfl

end

variable {fixture : Fixture ν σ} {failure : Failure}

section

variable [Shown ν]

theorem run_returnsNoneAfterTimeout (answered : (fixture.wait (.after shortTimeout)).run.run turns world = some (.ok none, after))
    (clock : after.clock = world.clock + shortTimeout) :
    (returnsNoneAfterTimeout fixture).run.run turns world = some (.ok (), after) := by
  have onTime : waitDelay.check (after.clock - world.clock) = .ok () := by
    rw [clock, Nat.add_sub_cancel_left]
    rfl
  simp only [returnsNoneAfterTimeout, Task.run_bind, Task.run_ask, Task.run_ofExcept, Run.answer, answered, onTime,
    Option.map_some, Option.bind_some]
  rfl

theorem run_expectRaised {limit : WaitLimit} {expected : Failure → Bool}
    (answered : (fixture.get limit).run.run turns world = some (.error (.failed failure), mid))
    (clock : mid.clock = world.clock + shortTimeout) (isExpected : expected failure = true)
    (cleaned : fixture.cleanup.run turns mid = some (.ok (), after)) :
    (expectRaised fixture limit expected).run.run turns world = some (.ok (), after) := by
  have onTime : getDelay.check (mid.clock - world.clock) = .ok () := by
    rw [clock, Nat.add_sub_cancel_left]
    rfl
  simp only [expectRaised, Task.run_bind, Task.run_ask, Task.run_outcome, Run.answer, answered, Option.map_some,
    Option.bind_some, isExpected, if_true, Task.run_ofExcept, onTime, Except.mapError, Task.run_orPanic, cleaned]

end

theorem run_outerTimeoutIsNotLost {α : Type} [Shown α] {operation : WaitLimit → Task ν σ Failure α} {timeout : Timeout}
    {made : World Q ν σ} (create : world.newTimeout (some outerTimeout) = (timeout, made))
    (started : made.startTimeout timeout = (.ok (), begun))
    (answered : (operation (.after innerTimeout)).run.run turns begun = some (.error (.failed failure), mid))
    (raised : failure.raisedBy timeout = true) :
    (outerTimeoutIsNotLost operation).run.run turns world = some (.ok (), (mid.cancelTimeout timeout).2) := by
  simp only [outerTimeoutIsNotLost, Task.run_bind, Task.run_ask, run_during, Task.run_outcome, Run.answer, create, started,
    answered, Option.map_some, Option.bind_some, raised, if_true]
  rfl

end Contract

variable [LawfulQueue Q]

/-- No callback is running, and no timer can do anything but wake the task. -/
structure Unhurried (world : World Q ν σ) : Prop where
  recorded : world.Recorded
  holding : world.Holding
  outside : world.hub.inCallback = false
  wakes : ∀ held ∈ armed world.hub.queue, held.2 = .wake

namespace Unhurried

variable {limit : WaitLimit} {timeout : Timeout} {delay : Nat}

theorem undisturbed (unhurried : Unhurried world) : Undisturbed world where
  sound := unhurried.recorded.sound
  outside := unhurried.outside
  timers held member := .inl (unhurried.wakes held member)

/-- A timeout is pending only if its timer can raise an error. -/
theorem not_pending (unhurried : Unhurried world) (timeout : Timeout) : world.isPending timeout = false := by
  apply Bool.eq_false_iff.mpr
  intro pending
  obtain ⟨held, member, holds⟩ := (World.isPending_iff unhurried.recorded.sound timeout).mp pending
  obtain ⟨copy, -, raises⟩ := unhurried.holding.raises _ _ holds held member rfl
  cases (unhurried.wakes held member).symm.trans raises

theorem soonest (unhurried : Unhurried world) (timeout : Timeout) (delay : Nat) :
    Soonest ⟨world.clock + delay, world.hub.nextTimer⟩ timeout.error
      (WaitLimit.timerOf world timeout delay :: armed world.hub.queue) where
  member := List.mem_cons_self ..
  least other error' member := by
    obtain same | before := List.mem_cons.mp member
    · cases same
      exact Alarm.le_refl _
    · cases unhurried.wakes _ before

/-- The state after a run, which armed nothing that is still armed. -/
theorem ran {α : Type} {program : Program ν σ α} {value : α} (unhurried : Unhurried world)
    (finished : program.run turns world = some (value, after))
    (fewer : ∀ held ∈ armed after.hub.queue, held ∈ armed world.hub.queue) : Unhurried after where
  recorded := unhurried.recorded.steps (Program.run_steps finished)
  holding := unhurried.holding.steps unhurried.recorded (Program.run_steps finished)
  outside := by
    have met : program.MeetsOutside turns world after :=
      Run.meets_iff.mpr (.inl ⟨.pure value, Run.reaches_pure_iff.mpr finished⟩)
    exact met.inCallback unhurried.outside
  wakes held member := unhurried.wakes held (fewer held member)

end Unhurried

/-- The test succeeds, and leaves no timer armed that was not armed before. -/
def Passes (turns : Nat) (test : TestBody ν σ) (fixture : Fixture ν σ) (world : World Q ν σ) : Prop :=
  ∃ after, (test fixture).run.run turns world = some (.ok (), after) ∧ Unhurried after ∧
    ∀ held ∈ armed after.hub.queue, held ∈ armed world.hub.queue

/-- Cleaning up succeeds, and leaves no timer armed either. -/
def Fixture.Tidies (Q : Type 1) [TimerQueue (Action ν σ) Q] [LawfulQueue Q] (fixture : Fixture ν σ) (turns : Nat) : Prop :=
  ∀ world : World Q ν σ, Unhurried world → ∃ after, fixture.cleanup.run turns world = some (.ok (), after) ∧
    ∀ held ∈ armed after.hub.queue, held ∈ armed world.hub.queue

namespace Unhurried

open Contract

theorem cutShort_clock {delay : Nat} {timer : Nat} (short : CutShort ⟨world.clock + delay, timer⟩ world after) :
    after.clock = world.clock + delay := by
  rw [short.clock]
  exact Nat.max_eq_right (Nat.le_add_right ..)

theorem newTimeout (unhurried : Unhurried world) (duration : Option Nat) : Unhurried (world.newTimeout duration).2 :=
  unhurried.ran (Program.run_ask 0 (.newTimeout duration) world) fun _ member => member

theorem newError (unhurried : Unhurried world) : Unhurried { world with errorsMade := world.errorsMade + 1 } :=
  unhurried.ran (Program.run_ask 0 (.newError "") world) fun _ member => member

variable [Shown ν] {fixture : Fixture ν σ}

/-- The wait's own timeout is its answer. -/
theorem returnsNone (unhurried : Unhurried world) (enough : (armed world.hub.queue).length + 3 ≤ turns)
    (fits : (deadline? world.clock shortTimeout).isSome) {id : EventId} (unset : (world.event id).isSet = false) {value : ν}
    (waits : fixture.wait = waitsFor id value) : Passes turns returnsNoneAfterTimeout fixture world := by
  have starts : (WaitLimit.after shortTimeout).Starts world (world.newTimeout (some shortTimeout)).1 shortTimeout :=
    ⟨rfl, unhurried.not_pending _, rfl, fits⟩
  obtain ⟨after, waited, short⟩ := Run.wait_cutShort starts unhurried.recorded unhurried.undisturbed enough
    (unhurried.soonest _ _) unset
  have own : (world.newTimeout (some shortTimeout)).1.elapsedIn (world.newTimeout (some shortTimeout)).1.error = true :=
    beq_self_eq_true (world.newTimeout (some shortTimeout)).1.id
  rw [own] at waited
  have answered := waitsFor_timedOut waited value
  rw [← waits] at answered
  have passed := run_returnsNoneAfterTimeout answered (cutShort_clock short)
  have fewer := fun held member => (short.kept held member).1
  exact ⟨after, passed, unhurried.ran passed fewer, fewer⟩

/-- The operation fails with the error of the timeout it is limited by. -/
theorem raises (unhurried : Unhurried world) (enough : (armed world.hub.queue).length + 3 ≤ turns) {limit : WaitLimit}
    {timeout : Timeout} (starts : limit.Starts world timeout shortTimeout) {id : ResultId}
    (unready : (world.result id).value = none) (gets : fixture.get = getsFrom id) (tidies : fixture.Tidies Q turns)
    {expected : Failure → Bool} (isExpected : expected (.hub timeout.error) = true) :
    Passes turns (expectRaised · limit expected) fixture world := by
  obtain ⟨mid, got, short⟩ := Run.get_cutShort starts unhurried.recorded unhurried.undisturbed enough
    (unhurried.soonest _ _) unready
  have answered := getsFrom_failed got
  rw [← gets] at answered
  have fewer := fun held member => (short.kept held member).1
  obtain ⟨after, cleaned, none⟩ := tidies mid (unhurried.ran answered fewer)
  have passed := run_expectRaised answered (cutShort_clock short) isExpected cleaned
  have left := fun held member => fewer held (none held member)
  exact ⟨after, passed, unhurried.ran passed left, left⟩

section

variable (unhurried : Unhurried world) (enough : (armed world.hub.queue).length + 3 ≤ turns)
  (fits : (deadline? world.clock shortTimeout).isSome) {id : ResultId} (unready : (world.result id).value = none)
  (gets : fixture.get = getsFrom id) (tidies : fixture.Tidies Q turns)

include unhurried enough fits unready gets tidies

theorem raisesNumber : Passes turns raisesTimeoutNumber fixture world :=
  unhurried.raises enough ⟨rfl, unhurried.not_pending _, rfl, fits⟩ unready gets tidies rfl

theorem raisesItself : Passes turns raisesTimeoutItself fixture world := by
  obtain ⟨timeout, made⟩ : ∃ timeout, timeout = (world.newTimeout (some shortTimeout)).1 := ⟨_, rfl⟩
  have ready := unhurried.newTimeout (some shortTimeout)
  have isExpected : (Failure.hub timeout.error).raisedBy timeout = true := by
    rw [made]
    exact beq_self_eq_true world.timeoutsMade
  have starts : (WaitLimit.under timeout).Starts (world.newTimeout (some shortTimeout)).2 timeout shortTimeout :=
    ⟨rfl, ready.not_pending timeout, by rw [made]; rfl, fits⟩
  obtain ⟨after, passed, rest⟩ : Passes turns (expectRaised · (.under timeout) (·.raisedBy timeout)) fixture _ :=
    ready.raises enough starts unready gets tidies isExpected
  refine ⟨after, ?_, rest⟩
  simp only [raisesTimeoutItself, Task.run_bind, Task.run_ask, Run.answer, Option.map_some, Option.bind_some, ← made]
  exact passed

theorem raisesSubstitute : Passes turns raisesSubstitute fixture world := by
  obtain ⟨exception, substitute⟩ : ∃ exception : SharedError, exception = ⟨world.errorsMade, "expected error"⟩ := ⟨_, rfl⟩
  obtain ⟨timeout, made⟩ : ∃ timeout : Timeout, timeout = ⟨world.timeoutsMade, some shortTimeout, none, some exception⟩ := ⟨_, rfl⟩
  have ready := unhurried.newError.newTimeout (some shortTimeout)
  have isExpected : (!(Failure.hub timeout.error).isTimeout && (Failure.hub timeout.error).raisedBy timeout) = true := by
    rw [made]
    exact beq_self_eq_true exception.id
  have starts : (WaitLimit.under timeout).Starts _ timeout shortTimeout :=
    ⟨rfl, ready.not_pending timeout, by rw [made], fits⟩
  obtain ⟨after, passed, rest⟩ : Passes turns (expectRaised · (.under timeout) fun failure =>
      !failure.isTimeout && failure.raisedBy timeout) fixture _ := ready.raises enough starts unready gets tidies isExpected
  refine ⟨after, ?_, rest⟩
  simp only [Contract.raisesSubstitute, Task.run_bind, Task.run_ask, Run.answer, World.newTimeout, Option.map_some,
    Option.bind_some, ← substitute, ← made]
  exact passed

end

end Unhurried

open Contract

/-- The timeout around an operation, and the operation's own. -/
def outerOf (world : World Q ν σ) : Timeout := (world.newTimeout (some Contract.outerTimeout)).1

def innerOf (world : World Q ν σ) : Timeout := (world.newTimeout (some innerTimeout)).1

def World.outerAlarm (world : World Q ν σ) : Alarm := ⟨world.clock + Contract.outerTimeout, world.hub.nextTimer⟩

/-- The outer timeout runs, and the operation is about to begin. -/
structure Surrounded (turns : Nat) (world begun : World Q ν σ) : Prop where
  started : (world.newTimeout (some Contract.outerTimeout)).2.startTimeout (outerOf world) = (.ok (), begun)
  events : begun.events = world.events
  results : begun.results = world.results
  onto : (armed begun.hub.queue).Perm ((world.outerAlarm, .raise (outerOf world).error) :: armed world.hub.queue)
  recorded : begun.Recorded
  undisturbed : Undisturbed begun
  room : (armed begun.hub.queue).length + 3 ≤ turns
  starts : (WaitLimit.after innerTimeout).Starts begun (innerOf begun) innerTimeout
  soonest : Soonest world.outerAlarm (outerOf world).error
    (WaitLimit.timerOf begun (innerOf begun) innerTimeout :: armed begun.hub.queue)
  foreign : (innerOf begun).elapsedIn (outerOf world).error = false

theorem Unhurried.surrounded (unhurried : Unhurried world) (enough : (armed world.hub.queue).length + 4 ≤ turns)
    (fits : (deadline? world.clock innerTimeout).isSome) : ∃ begun, Surrounded turns world begun := by
  have made := unhurried.newTimeout (some Contract.outerTimeout)
  have sooner := fits_sooner (Nat.le_refl world.clock) (show Contract.outerTimeout ≤ innerTimeout by decide) fits
  obtain ⟨begun, answered, started⟩ := World.startTimeout_spent _ made.recorded.sound (made.not_pending (outerOf world))
    fun after given => by cases given; exact sooner
  have steps := World.startTimeout_steps (world.newTimeout (some Contract.outerTimeout)).2 (outerOf world)
  obtain ⟨hub, timers, same⟩ := World.startTimeout_hub (world.newTimeout (some Contract.outerTimeout)).2 (outerOf world)
  rw [answered] at steps same
  have clock : begun.clock = world.clock := (congrArg World.clock same).trans rfl
  have count : begun.timeoutsMade = world.timeoutsMade + 1 := (congrArg World.timeoutsMade same).trans rfl
  have recorded := made.recorded.steps steps
  have onto : (armed begun.hub.queue).Perm ((world.outerAlarm, .raise (outerOf world).error) :: armed world.hub.queue) :=
    started.onto
  have different : (innerOf begun).id ≠ (outerOf world).id := by
    change begun.timeoutsMade ≠ world.timeoutsMade
    omega
  have spent : begun.isPending (innerOf begun) = false := by
    apply Bool.eq_false_iff.mpr
    intro pending
    obtain ⟨held, member, holds⟩ := (World.isPending_iff recorded.sound (innerOf begun)).mp pending
    have holds : world.timers.get? (innerOf begun).id = some held.1.id := (started.others _ different).symm.trans holds
    obtain rfl | before := List.mem_cons.mp (onto.mem_iff.mp member)
    · exact Nat.lt_irrefl _ (unhurried.holding.numbered _ _ holds)
    · have isPending := (World.isPending_iff unhurried.recorded.sound (innerOf begun)).mpr ⟨held, before, holds⟩
      exact Bool.noConfusion (isPending.symm.trans (unhurried.not_pending _))
  have undisturbed := started.undisturbed recorded.sound made.undisturbed
  refine ⟨begun, answered, started.events, started.results, onto, recorded, undisturbed, ?_, ?_, ?_, ?_⟩
  · rw [onto.length_eq, List.length_cons]
    omega
  · exact ⟨rfl, spent, rfl, clock ▸ fits⟩
  · refine ⟨List.mem_cons_of_mem _ (onto.mem_iff.mpr (List.mem_cons_self ..)), fun other error' member => ?_⟩
    obtain same | before := List.mem_cons.mp member
    · cases same
      refine .inl ?_
      change world.clock + Contract.outerTimeout < begun.clock + innerTimeout
      rw [clock]
      exact Nat.add_lt_add_left (by decide) _
    · obtain same | before := List.mem_cons.mp (onto.mem_iff.mp before)
      · cases same
        exact Alarm.le_refl _
      · cases unhurried.wakes _ before
  · exact beq_eq_false_iff_ne.mpr different.symm

namespace Surrounded

/-- The operation is cut short by the timeout around it, which is stopped on the way out. -/
theorem passes {α : Type} [Shown α] (surrounded : Surrounded turns world begun) (unhurried : Unhurried world)
    {operation : WaitLimit → Task ν σ Failure α} (short : CutShort world.outerAlarm begun mid)
    (answered : (operation (.after innerTimeout)).run.run turns begun =
      some (.error (.failed (.hub (outerOf world).error)), mid)) :
    ∃ after, (outerTimeoutIsNotLost operation).run.run turns world = some (.ok (), after) ∧ Unhurried after ∧
      ∀ held ∈ armed after.hub.queue, held ∈ armed world.hub.queue := by
  have raised : (Failure.hub (outerOf world).error).raisedBy (outerOf world) = true := beq_self_eq_true world.timeoutsMade
  have passed := run_outerTimeoutIsNotLost rfl surrounded.started answered raised
  have fewer : ∀ held ∈ armed (mid.cancelTimeout (outerOf world)).2.hub.queue, held ∈ armed world.hub.queue := by
    intro held member
    obtain ⟨before, different⟩ := short.kept held (World.mem_armed_stopped short.sound (outerOf world) held member).1
    obtain rfl | found := List.mem_cons.mp (surrounded.onto.mem_iff.mp before)
    · exact absurd rfl different
    · exact found
  exact ⟨_, passed, unhurried.ran passed fewer, fewer⟩

variable [Shown ν] {fixture : Fixture ν σ}

theorem waitNotLost (surrounded : Surrounded turns world begun) (unhurried : Unhurried world) {id : EventId} {value : ν}
    (unset : (world.event id).isSet = false) (waits : fixture.wait = waitsFor id value) :
    Passes turns waitOuterTimeoutIsNotLost fixture world := by
  have unset : (begun.event id).isSet = false := by rwa [World.event, surrounded.events]
  obtain ⟨mid, waited, short⟩ := Run.wait_cutShort surrounded.starts surrounded.recorded surrounded.undisturbed
    surrounded.room surrounded.soonest unset
  rw [surrounded.foreign] at waited
  have answered := waitsFor_failed waited value
  rw [← waits] at answered
  exact surrounded.passes unhurried short answered

theorem getNotLost (surrounded : Surrounded turns world begun) (unhurried : Unhurried world) {id : ResultId}
    (unready : (world.result id).value = none) (gets : fixture.get = getsFrom id) :
    Passes turns getOuterTimeoutIsNotLost fixture world := by
  have unready : (begun.result id).value = none := by rwa [World.result, surrounded.results]
  obtain ⟨mid, got, short⟩ := Run.get_cutShort surrounded.starts surrounded.recorded surrounded.undisturbed
    surrounded.room surrounded.soonest unready
  have answered := getsFrom_failed got
  rw [← gets] at answered
  exact surrounded.passes unhurried short answered

end Surrounded

/-- Wherever a run of the hub has come to, outside callbacks, while only timers that wake the task are armed: a wait for an
event that is not set and one for a result that is not there pass the tests of their kind. -/
theorem Bench.contracts_kept {α : Type} [Shown ν] (front : Front) (memory : σ) (past : Program ν σ α) (turns : Nat)
    (world : Bench ν σ) (reached : past.Meets turns (Bench.fresh front memory) world)
    (outside : world.hub.inCallback = false) (wakes : ∀ held ∈ armed world.hub.queue, held.2 = .wake)
    (fits : (deadline? world.clock innerTimeout).isSome) (left : Nat) (enough : Bench.pendingTimers world + 4 ≤ left)
    (fixture : Fixture ν σ) :
    (∀ id value, (world.event id).isSet = false → fixture.wait = waitsFor id value →
      Passes left waitOuterTimeoutIsNotLost fixture world ∧ Passes left returnsNoneAfterTimeout fixture world) ∧
    (∀ id, (world.result id).value = none → fixture.get = getsFrom id →
      Passes left getOuterTimeoutIsNotLost fixture world ∧ (fixture.Tidies (LazyQueue (Action ν σ)) left →
        Passes left raisesTimeoutNumber fixture world ∧ Passes left raisesTimeoutItself fixture world ∧
        Passes left raisesSubstitute fixture world)) := by
  have steps := Program.meets_steps reached
  have start : World.Recorded (Bench.fresh front memory : Bench ν σ) := .fresh front memory
  have recorded := start.steps steps
  have unhurried : Unhurried world := ⟨recorded, (World.Holding.fresh front memory).steps start steps, outside, wakes⟩
  have count : Bench.pendingTimers world = (armed world.hub.queue).length := LawfulQueue.armedCount_eq recorded.sound
  rw [count] at enough
  have room : (armed world.hub.queue).length + 3 ≤ left := by omega
  have soon := fits_sooner (Nat.le_refl world.clock) (show shortTimeout ≤ innerTimeout by decide) fits
  obtain ⟨begun, surrounded⟩ := unhurried.surrounded enough fits
  constructor
  · intro id value unset waits
    exact ⟨surrounded.waitNotLost unhurried unset waits, unhurried.returnsNone room soon unset waits⟩
  · intro id unready gets
    refine ⟨surrounded.getNotLost unhurried unready gets, fun tidies => ?_⟩
    exact ⟨unhurried.raisesNumber room soon unready gets tidies, unhurried.raisesItself room soon unready gets tidies,
      unhurried.raisesSubstitute room soon unready gets tidies⟩

/-- One timer is overdue, one was cancelled, one is due while a test waits, and a wake is pending. -/
def crowd : Program String Unit Unit := do
  let _ ← Program.ask .newEvent
  let _ ← Program.ask .newResult
  let _ ← Program.ask (.hub (.schedule 3 .wake))
  let _ ← Program.ask (.hub (.schedule 4 (.raise .loopExit)))
  let _ ← Program.ask (.hub (.cancel 1))
  Program.ask (.burn 8)
  let _ ← Program.ask (.hub (.schedule 500 .wake))
  Program.ask (.hub .wake)

def crowded : Bench String Unit := ((crowd.run 0 (Bench.fresh .direct ())).map (·.2)).getD (Bench.fresh .direct ())

def hubFixture : Fixture String Unit := { case := ⟨0⟩, wait := waitsFor ⟨0⟩ "set", get := getsFrom ⟨0⟩ }

set_option maxRecDepth 2000 in
theorem hubFixture_kept : Passes 6 waitOuterTimeoutIsNotLost hubFixture crowded ∧
    Passes 6 returnsNoneAfterTimeout hubFixture crowded ∧ Passes 6 getOuterTimeoutIsNotLost hubFixture crowded ∧
    Passes 6 raisesTimeoutNumber hubFixture crowded ∧ Passes 6 raisesTimeoutItself hubFixture crowded ∧
    Passes 6 raisesSubstitute hubFixture crowded := by
  have ran : crowd.run 0 (Bench.fresh .direct ()) = some ((), crowded) := rfl
  have timers : armed crowded.hub.queue = [(⟨3, 0⟩, .wake), (⟨508, 2⟩, .wake)] := rfl
  have wakes : ∀ held ∈ armed crowded.hub.queue, held.2 = .wake := by
    rw [timers]
    simp
  have tidies : hubFixture.Tidies (LazyQueue (Action String Unit)) 6 := fun world _ => ⟨world, rfl, fun _ member => member⟩
  have fits : (deadline? crowded.clock innerTimeout).isSome := by decide
  have reached : crowd.Meets 0 (Bench.fresh .direct ()) crowded := Program.meets_end ran
  obtain ⟨waits, gets⟩ := Bench.contracts_kept .direct () crowd 0 crowded reached rfl wakes fits 6 (by decide) hubFixture
  obtain ⟨waitKept, onTime⟩ := waits ⟨0⟩ "set" rfl rfl
  obtain ⟨getKept, raises⟩ := gets ⟨0⟩ rfl rfl
  exact ⟨waitKept, onTime, getKept, raises tidies⟩

end Testbench
