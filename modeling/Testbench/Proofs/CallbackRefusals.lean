import Testbench.Proofs.NestedTimeouts
import Testbench.Proofs.RunInvariants
import Testbench.Proofs.RunSwitches
import Testbench.Proofs.WaiterAccounting

/-! Callbacks cannot block. Whatever would give control to the hub is refused to a callback, although its timer is armed
and its waiter signed on by then; both are taken back. So the hub's loop is never entered from within, and a callback
finds the hub as it was. -/

namespace Testbench

open LawfulQueue (armed Sound)

variable {ν σ : Type} {Q : Type 1} [TimerQueue (Action ν σ) Q]

/-- The wait has no timeout, or one that does not run yet. -/
def WaitLimit.Spent (limit : WaitLimit) (world : World Q ν σ) : Prop :=
  ∀ timeout, limit.own world = some timeout → world.isPending timeout = false

/-- The request would give control to the hub. -/
inductive Request.Blocks (world : World Q ν σ) : {β : Type} → Request ν σ (Except (Stop HubError) β) → Prop where
  | switch : Blocks world .switch
  | sleep {delay : Nat} (fits : (deadline? world.clock delay).isSome) : Blocks world (.sleep delay)
  | wait {id : EventId} {limit : WaitLimit} (unset : (world.event id).isSet = false) (fits : limit.Fits world)
      (spent : limit.Spent world) : Blocks world (.wait id limit)
  | get {id : ResultId} {limit : WaitLimit} (unready : (world.result id).isReady = false) (fits : limit.Fits world)
      (spent : limit.Spent world) : Blocks world (.get id limit)

namespace World

variable [LawfulQueue Q] {world begun after : World Q ν σ}

/-- A timer with a new number is the only one that goes when it is cancelled. -/
theorem armed_cancel_new (begun : World Q ν σ) {deadline : Nat} {action : Action ν σ}
    (sound : Sound world.hub.nextTimer world.hub.queue) (sound' : Sound begun.hub.nextTimer begun.hub.queue)
    (onto : (armed begun.hub.queue).Perm ((⟨deadline, world.hub.nextTimer⟩, action) :: armed world.hub.queue)) :
    (armed (begun.cancel world.hub.nextTimer).2.hub.queue).Perm (armed world.hub.queue) := by
  refine (armed_cancel sound' world.hub.nextTimer).trans ((onto.filter _).trans (.of_eq ?_))
  rw [List.filter_cons_of_neg (by simp), List.filter_eq_self.mpr fun other member => decide_eq_true ?_]
  exact fun same => Nat.ne_of_lt (LawfulQueue.numbered sound other member) same

theorem Started.undone {timeout : Timeout} (started : Started timeout world begun)
    (sound : Sound world.hub.nextTimer world.hub.queue) (sound' : Sound after.hub.nextTimer after.hub.queue)
    (queue : after.hub.queue = begun.hub.queue) (timers : after.timers = begun.timers) :
    (armed (after.cancelTimeout timeout).2.hub.queue).Perm (armed world.hub.queue) := by
  have onto := started.onto
  have own := started.own
  rw [← queue] at onto
  rw [← timers] at own
  unfold cancelTimeout
  cases delay : timeout.after with
  | none =>
    rw [delay] at onto own
    rw [own]
    exact onto
  | some duration =>
    rw [delay] at onto own
    rw [own]
    exact armed_cancel_new { after with timers := after.timers.erase timeout.id } sound sound' onto

/-- The limit of a wait is given up again. -/
theorem startLimit_undone (sound : Sound world.hub.nextTimer world.hub.queue) {limit : WaitLimit} (fits : limit.Fits world)
    (spent : limit.Spent world) : ∃ begun, world.startLimit limit = (.ok (limit.own world), begun) ∧
      ∀ after : World Q ν σ, Sound after.hub.nextTimer after.hub.queue → after.hub.queue = begun.hub.queue →
        after.timers = begun.timers → (armed (after.endLimit (limit.own world)).hub.queue).Perm (armed world.hub.queue) := by
  cases limit with
  | never => exact ⟨world, rfl, fun _ _ queue _ => .of_eq (congrArg armed queue)⟩
  | after duration =>
    obtain ⟨begun, answered, started⟩ := startTimeout_spent (world.newTimeout (some duration)).2 sound
      (spent _ rfl) fun after delay => fits _ after rfl (spent _ rfl) delay
    exact ⟨begun, by simp only [startLimit, answered]; rfl, fun _ sound' queue timers =>
      started.undone sound sound' queue timers⟩
  | under timeout =>
    obtain ⟨begun, answered, started⟩ := startTimeout_spent world sound (spent _ rfl)
      fun after delay => fits _ after rfl (spent _ rfl) delay
    refine ⟨begun, ?_, fun _ sound' queue timers => started.undone sound sound' queue timers⟩
    simp only [startLimit, spent _ rfl, Bool.false_eq_true, if_false, answered]
    rfl

end World

/-- The hub has fired nothing, dropped nothing and waited for nothing. -/
structure Unmoved (world after : Bench ν σ) : Prop where
  clock : after.clock = world.clock
  woken : after.hub.woken = world.hub.woken
  firings : after.firings = world.firings
  heap : world.hub.queue.heap.toList.Subperm after.hub.queue.heap.toList
  waiters : ∀ watched, after.waiters watched = world.waiters watched

namespace Unmoved

variable {world mid after : Bench ν σ}

theorem trans (first : Unmoved world mid) (second : Unmoved mid after) : Unmoved world after where
  clock := second.clock.trans first.clock
  woken := second.woken.trans first.woken
  firings := second.firings.trans first.firings
  heap := first.heap.trans second.heap
  waiters watched := (second.waiters watched).trans (first.waiters watched)

theorem aside (clock : after.clock = world.clock) (woken : after.hub.woken = world.hub.woken)
    (firings : after.firings = world.firings) (heap : world.hub.queue.heap.toList.Subperm after.hub.queue.heap.toList)
    (events : after.events = world.events) (results : after.results = world.results) : Unmoved world after := by
  refine ⟨clock, woken, firings, heap, fun watched => ?_⟩
  cases watched <;> simp only [World.waiters, World.event, World.result, events, results]

theorem schedule (world : Bench ν σ) (delay : Nat) (action : Action ν σ) : Unmoved world (world.schedule delay action).2 := by
  unfold World.schedule
  dsimp only
  split
  · exact .aside rfl rfl rfl (.refl _) rfl rfl
  next deadline _ =>
    have onto := TimerHeap.toList_insert world.hub.queue.heap world.hub.nextTimer deadline
    exact .aside rfl rfl rfl ((List.sublist_cons_self _ _).subperm.trans onto.symm.subperm) rfl rfl

theorem cancel (world : Bench ν σ) (timer : Nat) : Unmoved world (world.cancel timer).2 := by
  unfold World.cancel
  split
  · exact .aside rfl rfl rfl (.refl _) rfl rfl
  next rest dropping =>
    simp only [TimerQueue.cancel?, LazyQueue.cancel?, Option.ite_none_right_eq_some, Option.some.injEq] at dropping
    obtain ⟨-, rfl⟩ := dropping
    exact .aside rfl rfl rfl (.refl _) rfl rfl

theorem carries : Run.Carries fun _ (world after : Bench ν σ) => Unmoved world after := by
  refine Run.carries_of_timers (fun _ => .aside rfl rfl rfl (.refl _) rfl rfl) (fun first second => first.trans second)
    ?_ cancel (fun _ _ _ => .aside rfl rfl rfl (.refl _) rfl rfl)
  exact fun world delay signal => schedule world delay signal.action

theorem beginSwitch (world : Bench ν σ) : Unmoved world world.beginSwitch := by
  obtain ⟨front, same⟩ := world.beginSwitch_eq
  rw [same]
  exact .aside rfl rfl rfl (.refl _) rfl rfl

/-- The waiter is signed on and off again. -/
theorem signedOff {watched : Watched} {begun : Bench ν σ}
    (on : World.Recounted watched (world.waiters watched + 1) world begun) (middle : Unmoved begun mid)
    (off : World.Recounted watched (mid.waiters watched - 1) mid after) (clock : after.clock = world.clock)
    (woken : after.hub.woken = world.hub.woken) (firings : after.firings = world.firings)
    (heap : after.hub.queue.heap = world.hub.queue.heap) : Unmoved world after := by
  refine ⟨clock, woken, firings, heap ▸ .refl _, fun other => ?_⟩
  by_cases own : other = watched
  · rw [own, off.own, middle.waiters, on.own, Nat.add_sub_cancel]
  · rw [off.others other own, middle.waiters, on.others other own]

end Unmoved

/-- A callback finds the hub as it was. -/
structure Untouched (world after : Bench ν σ) : Prop extends Unmoved world after where
  armed : (armed after.hub.queue).Perm (armed world.hub.queue)

/-! What is begun for a request that is refused. -/

namespace Run

omit [TimerQueue (Action ν σ) Q] in
theorem untilSet_refused {world : World Q ν σ} (inside : world.hub.inCallback = true) (loop : Switch Q ν σ) (id : EventId)
    (left : Nat) :
    untilSet (guarded loop) id (left + 1) world = some (.error (.failed .blockingInCallback), world.beginSwitch) := by
  simp only [untilSet, guarded_refuses inside]

omit [TimerQueue (Action ν σ) Q] in
theorem untilReady_refused {world : World Q ν σ} (inside : world.hub.inCallback = true) (loop : Switch Q ν σ)
    (id : ResultId) (left : Nat) :
    untilReady (guarded loop) id (left + 1) world = some (.error (.failed .blockingInCallback), world.beginSwitch) := by
  simp only [untilReady, guarded_refuses inside]

variable {world begun : Bench ν σ}

theorem unmoved_eventWaiter (begun : Bench ν σ) (id : EventId) :
    Unmoved begun ((begun.addEventWaiter id).beginSwitch.removeEventWaiter id) := by
  have on := World.recounted_addEventWaiter begun id
  have off := World.recounted_removeEventWaiter (begun.addEventWaiter id).beginSwitch id
  have middle := Unmoved.beginSwitch (begun.addEventWaiter id)
  obtain ⟨front, same⟩ := (begun.addEventWaiter id).beginSwitch_eq
  rw [same] at off middle ⊢
  exact .signedOff on middle off rfl rfl rfl rfl

theorem unmoved_resultWaiter (begun : Bench ν σ) (id : ResultId) :
    Unmoved begun ((begun.addResultWaiter id).beginSwitch.removeResultWaiter id) := by
  have on := World.recounted_addResultWaiter begun id
  have off := World.recounted_removeResultWaiter (begun.addResultWaiter id).beginSwitch id
  have middle := Unmoved.beginSwitch (begun.addResultWaiter id)
  obtain ⟨front, same⟩ := (begun.addResultWaiter id).beginSwitch_eq
  rw [same] at off middle ⊢
  exact .signedOff on middle off rfl rfl rfl rfl

theorem switch_refused (inside : world.hub.inCallback = true) (loop : Switch (LazyQueue (Action ν σ)) ν σ) :
    ∃ after, guarded loop world = some (.error (.failed .blockingInCallback), after) ∧ Untouched world after := by
  refine ⟨_, guarded_refuses inside loop, .beginSwitch world, ?_⟩
  obtain ⟨front, same⟩ := world.beginSwitch_eq
  rw [same]
  exact .refl _

theorem sleep_refused (recorded : world.Recorded) (inside : world.hub.inCallback = true) {delay : Nat}
    (fits : (deadline? world.clock delay).isSome) (loop : Switch (LazyQueue (Action ν σ)) ν σ) :
    ∃ after, sleep (guarded loop) delay world = some (.error (.failed .blockingInCallback), after) ∧
      Untouched world after := by
  obtain ⟨deadline, due⟩ := Option.isSome_iff_exists.mp fits
  obtain ⟨begun, answered⟩ := world.schedule_eq due .wake
  obtain ⟨-, -, -, onto⟩ := World.schedule_armed world recorded.sound answered
  have scheduled := recorded.schedule delay .wake
  have unmoved := Unmoved.schedule world delay .wake
  have still := inCallback_schedule world delay .wake
  rw [answered] at scheduled unmoved still
  have waiting := (scheduled.steps begun.beginSwitch_steps).sound
  have undone : (armed (begun.beginSwitch.cancel world.hub.nextTimer).2.hub.queue).Perm (armed world.hub.queue) := by
    apply World.armed_cancel_new begun.beginSwitch recorded.sound waiting
    obtain ⟨front, same⟩ := begun.beginSwitch_eq
    rw [same]
    exact onto
  refine ⟨(begun.beginSwitch.cancel world.hub.nextTimer).2, ?_, ?_, undone⟩
  · simp only [sleep, answered, guarded_refuses (still.trans inside)]
  · exact (unmoved.trans (.beginSwitch begun)).trans (.cancel _ _)

/-- A wait in a callback: its limit has begun, and is all that has. -/
theorem limit_refused (recorded : world.Recorded) {limit : WaitLimit} (fits : limit.Fits world)
    (spent : limit.Spent world) : ∃ begun, world.startLimit limit = (.ok (limit.own world), begun) ∧
      begun.hub.inCallback = world.hub.inCallback ∧ ∀ after : Bench ν σ, Unmoved begun after → after.hub.queue = begun.hub.queue →
        after.timers = begun.timers → after.hub.nextTimer = begun.hub.nextTimer →
          Untouched world (after.endLimit (limit.own world)) := by
  obtain ⟨begun, answered, undone⟩ := World.startLimit_undone recorded.sound fits spent
  have steps := world.startLimit_steps limit
  have unmoved := Unmoved.carries.startLimit world limit
  have still : SameCallback [] world (world.startLimit limit).2 := carries_sameCallback.startLimit world limit
  rw [answered] at steps unmoved still
  refine ⟨begun, answered, still, fun after signed queue timers numbers => ⟨?_, ?_⟩⟩
  · exact (unmoved.trans signed).trans (Unmoved.carries.endLimit after (limit.own world))
  · have sound := (recorded.steps steps).sound
    rw [← queue, ← numbers] at sound
    exact undone after sound queue timers

theorem wait_refused (recorded : world.Recorded) (inside : world.hub.inCallback = true) {id : EventId} {limit : WaitLimit}
    (unset : (world.event id).isSet = false) (fits : limit.Fits world) (spent : limit.Spent world) (left : Nat)
    (loop : Switch (LazyQueue (Action ν σ)) ν σ) :
    ∃ after, wait (left + 1) (guarded loop) id limit world = some (.error (.failed .blockingInCallback), after) ∧
      Untouched world after := by
  obtain ⟨begun, answered, still, untouched⟩ := limit_refused recorded fits spent
  have waiting : (begun.addEventWaiter id).hub.inCallback = true := still.trans inside
  have refused := untilSet_refused waiting loop id left
  refine ⟨((begun.addEventWaiter id).beginSwitch.removeEventWaiter id).endLimit (limit.own world), ?_, ?_⟩
  · simp only [wait, unset, answered, refused, Bool.false_eq_true, if_false]
    cases limit.own world <;> rfl
  · have signed := unmoved_eventWaiter begun id
    obtain ⟨front, same⟩ := (begun.addEventWaiter id).beginSwitch_eq
    rw [same] at signed ⊢
    exact untouched _ signed rfl rfl rfl

theorem get_refused (recorded : world.Recorded) (inside : world.hub.inCallback = true) {id : ResultId} {limit : WaitLimit}
    (unready : (world.result id).isReady = false) (fits : limit.Fits world) (spent : limit.Spent world) (left : Nat)
    (loop : Switch (LazyQueue (Action ν σ)) ν σ) :
    ∃ after, get (left + 1) (guarded loop) id limit world = some (.error (.failed .blockingInCallback), after) ∧
      Untouched world after := by
  obtain ⟨begun, answered, still, untouched⟩ := limit_refused recorded fits spent
  have waiting : (begun.addResultWaiter id).hub.inCallback = true := still.trans inside
  have refused := untilReady_refused waiting loop id left
  refine ⟨((begun.addResultWaiter id).beginSwitch.removeResultWaiter id).endLimit (limit.own world), ?_, ?_⟩
  · have nothing := Option.isNone_iff_eq_none.mp (Option.isSome_eq_false_iff.mp unready)
    simp only [get, nothing, answered, refused]
  · have signed := unmoved_resultWaiter begun id
    obtain ⟨front, same⟩ := (begun.addResultWaiter id).beginSwitch_eq
    rw [same] at signed ⊢
    exact untouched _ signed rfl rfl rfl

/-- What would block is refused to a callback, which then goes on as if it had not asked. -/
theorem blocks_refused (recorded : world.Recorded) (inside : world.hub.inCallback = true) {β : Type}
    {request : Request ν σ (Except (Stop HubError) β)} (blocks : request.Blocks world) (left : Nat)
    (loop : Switch (LazyQueue (Action ν σ)) ν σ) :
    ∃ after, answer (left + 1) (guarded loop) request world = some (.error (.failed .blockingInCallback), after) ∧
      Untouched world after := by
  cases blocks with
  | switch => exact switch_refused inside loop
  | sleep fits => exact sleep_refused recorded inside fits loop
  | wait unset fits spent => exact wait_refused recorded inside unset fits spent left loop
  | get unready fits spent => exact get_refused recorded inside unready fits spent left loop

end Run

/-- Wherever a run of the hub has come to: a callback is marked as running exactly while one is, the hub then refuses
everything that would block and is left as it was, and otherwise a switch goes to the hub's loop. -/
theorem Bench.never_reentered {α : Type} (front : Front) (memory : σ) (program : Program ν σ α) (turns : Nat)
    (moment : Bench ν σ) (met : program.Meets turns (Bench.fresh front memory) moment) :
    (program.MeetsOutside turns (Bench.fresh front memory) moment ∨
      program.MeetsCalled turns (Bench.fresh front memory) moment) ∧
    (program.MeetsOutside turns (Bench.fresh front memory) moment → moment.hub.inCallback = false ∧
      ∀ left, Run.switch left moment = Run.loop left moment.beginSwitch) ∧
    (program.MeetsCalled turns (Bench.fresh front memory) moment → moment.hub.inCallback = true ∧
      ∀ (β : Type) (request : Request ν σ (Except (Stop HubError) β)), request.Blocks moment → ∀ left loop, ∃ after,
        Run.answer (left + 1) (Run.guarded loop) request moment = some (.error (.failed .blockingInCallback), after) ∧
          Untouched moment after) := by
  refine ⟨Program.meets_iff_outside_or_called.mp met, fun outside => ?_, fun called => ?_⟩
  · have unmarked := outside.inCallback rfl
    refine ⟨unmarked, fun left => ?_⟩
    simp only [Run.switch, Run.guarded, Run.inCallback_beginSwitch, unmarked, Bool.false_eq_true, if_false]
  · have recorded := (World.Recorded.fresh front memory).steps (Program.meets_steps met)
    refine ⟨called.inCallback, fun β request blocks left loop => ?_⟩
    exact Run.blocks_refused recorded called.inCallback blocks left loop

/-- A callback that wakes the task and would then wait itself. -/
def impatient : Task Unit Unit HubError Unit := do
  Task.ask (.hub .wake)
  let _ ← (Task.attempt (.wait ⟨0⟩ (.after 3)) : Task Unit Unit HubError Waited)
  return ()

def interruptedWait : Program Unit Unit (Except (Stop HubError) Waited) := do
  let event ← Program.ask .newEvent
  let _ ← Program.scheduleCall 2 "impatient" impatient
  Program.ask (.wait event (.after 9))

/-- The task waits, and the callback is about to run. -/
def beforeImpatient : Bench Unit Unit :=
  let asked := ((Bench.fresh .direct ()).newEvent.2.schedule 2 (.call "impatient" impatient)).2
  ((asked.startLimit (.after 9)).2.addEventWaiter ⟨0⟩).beginSwitch

theorem impatient_refused : ∃ moment after : Bench Unit Unit, interruptedWait.MeetsCalled 2 (Bench.fresh .direct ()) moment ∧
    moment.hub.woken = true ∧ moment.waiters (.event ⟨0⟩) = 1 ∧ (armed moment.hub.queue).length = 1 ∧
    Run.answer 1 (Run.guarded (Run.loop 1)) (.wait ⟨0⟩ (.after 3)) moment =
      some (.error (.failed .blockingInCallback), after) ∧ Untouched moment after := by
  have first : beforeImpatient.takeNext.1 = some (⟨2, 0⟩, .call "impatient" impatient) := by
    simp only [World.takeNext, TimerQueue.next]
    rw [LazyQueue.next]
    rfl
  let rest := beforeImpatient.takeNext.2
  let moment := ((rest.arrive ⟨2, 0⟩).setInCallback true).wake
  have called : interruptedWait.MeetsCalled 2 (Bench.fresh .direct ()) moment := by
    refine ⟨_, ⟨_, _, _, _, .request rfl (.call rfl .here), .wait rfl rfl (.within rfl)⟩, rfl, .inl ⟨rfl, ?_⟩⟩
    exact ⟨⟨2, 0⟩, "impatient", impatient, rest, Prod.ext first rfl, .request rfl .here⟩
  have met := Program.meets_iff_outside_or_called.mpr (.inr called)
  have blocks : Request.Blocks moment (.wait ⟨0⟩ (.after 3)) := by
    refine .wait (by decide +kernel) ?_ ?_
    · rintro _ _ ⟨⟩ - ⟨⟩
      decide +kernel
    · rintro _ ⟨⟩
      decide +kernel
  obtain ⟨after, refused, untouched⟩ :=
    ((Bench.never_reentered .direct () interruptedWait 2 moment met).2.2 called).2 Waited _ blocks 0 (Run.loop 1)
  exact ⟨moment, after, called, rfl, by decide +kernel, by decide +kernel, refused, untouched⟩

end Testbench
