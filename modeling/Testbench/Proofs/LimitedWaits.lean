import Mathlib.Data.List.Nodup
import Testbench.Proofs.CallbackRefusals
import Testbench.Proofs.GuardCustody

/-! Waits that end on time. Timers that wake the task in vain fire before the timer that ends its wait, and none of them
moves the clock past that timer's deadline. The wait's own timer is gone afterwards, and so is the one that ended it. -/

namespace Testbench

open LawfulQueue (armed Sound)

variable {ν σ : Type} {Q : Type 1} [TimerQueue (Action ν σ) Q] [LawfulQueue Q]

/-- The timer that raises its error before every other timer that raises one. -/
structure Soonest (alarm : Alarm) (error : HubError) (timers : List (Alarm × Action ν σ)) : Prop where
  member : (alarm, .raise error) ∈ timers
  least : ∀ other error', (other, .raise error') ∈ timers → alarm ≤ other

/-- The timer has ended something, and is gone. -/
structure CutShort (alarm : Alarm) (world after : World Q ν σ) : Prop where
  clock : after.clock = max world.clock alarm.deadline
  sound : Sound after.hub.nextTimer after.hub.queue
  kept : ∀ held ∈ armed after.hub.queue, held ∈ armed world.hub.queue ∧ held.1 ≠ alarm

variable {world begun after : World Q ν σ} {alarm : Alarm} {error : HubError}

theorem Soonest.perm {timers timers' : List (Alarm × Action ν σ)} (soonest : Soonest alarm error timers)
    (same : timers.Perm timers') : Soonest alarm error timers' where
  member := same.mem_iff.mp soonest.member
  least other error' member := soonest.least other error' (same.mem_iff.mpr member)

/-- The first error that can come is the one that comes. -/
theorem Run.cutShort (undisturbed : Undisturbed world) {turns left : Nat} (two : 2 ≤ turns)
    (room : (armed world.hub.queue).length + world.hub.woken.toNat < left)
    (soonest : Soonest alarm error (armed world.hub.queue)) :
    ∃ after, CutShort alarm world after ∧ after.timers = world.timers ∧ Run.Breaks turns left world error after := by
  obtain ⟨error', after, beside, still, interrupted, breaks⟩ := Run.interrupted undisturbed two room
  cases interrupted with
  | gaveUp wakes _ => cases wakes _ soonest.member
  | @raised first _ member others kept clock =>
    obtain rfl : alarm = first := by
      obtain same | ⟨before, -⟩ := others alarm error soonest.member
      · exact same
      · exact absurd (soonest.least first error' member) before.2
    have numbers := List.pairwise_map.mpr (LawfulQueue.distinct undisturbed.sound)
    have same := List.inj_on_of_nodup_map numbers soonest.member member rfl
    cases same
    exact ⟨after, ⟨clock, still.sound, kept⟩, beside.timers, breaks⟩

namespace World

omit [LawfulQueue Q] in
theorem startTimeout_hub (world : World Q ν σ) (timeout : Timeout) :
    ∃ hub timers, (world.startTimeout timeout).2 = { world with hub, timers } := by
  obtain ⟨hub, timers, stopped, -⟩ := world.cancelTimeout_hub timeout
  unfold startTimeout
  cases timeout.after with
  | none => exact ⟨hub, timers, stopped⟩
  | some duration =>
    obtain ⟨scheduled, same, -⟩ := (world.cancelTimeout timeout).2.schedule_hub duration (.raise timeout.error)
    rcases answered : (world.cancelTimeout timeout).2.schedule duration (.raise timeout.error) with ⟨_ | timer, next⟩
    all_goals
      rw [answered, stopped] at same
      simp only [answered]
      obtain rfl : next = _ := same
      exact ⟨_, _, rfl⟩

theorem mem_armed_stopped (sound : Sound world.hub.nextTimer world.hub.queue) (timeout : Timeout) :
    ∀ held ∈ armed (world.cancelTimeout timeout).2.hub.queue,
      held ∈ armed world.hub.queue ∧ world.timers.get? timeout.id ≠ some held.1.id := by
  intro held member
  unfold cancelTimeout at member
  split at member
  next holds => exact ⟨member, by simp [holds]⟩
  next timer holds =>
    have onto := @armed_cancel ν σ Q _ { world with timers := world.timers.erase timeout.id } _ sound timer
    obtain ⟨before, other⟩ := List.mem_filter.mp (onto.mem_iff.mp member)
    refine ⟨before, fun same => of_decide_eq_true other ?_⟩
    exact (Option.some.inj (holds.symm.trans same)).symm

theorem Started.undisturbed {timeout : Timeout} (started : Started timeout world begun)
    (sound : Sound begun.hub.nextTimer begun.hub.queue) (undisturbed : Undisturbed world) : Undisturbed begun where
  sound := sound
  outside := started.inCallback.trans undisturbed.outside
  timers held member := by
    obtain own | before := List.mem_append.mp (started.onto.mem_iff.mp member)
    · obtain ⟨after, -, rfl⟩ := Option.map_eq_some_iff.mp (Option.mem_toList.mp own)
      exact .inr ⟨_, rfl⟩
    · exact undisturbed.timers held before

end World

namespace WaitLimit

/-- The wait has a timeout of its own to start. -/
structure Starts (limit : WaitLimit) (world : World Q ν σ) (timeout : Timeout) (delay : Nat) : Prop where
  own : limit.own world = some timeout
  spent : world.isPending timeout = false
  lasts : timeout.after = some delay
  fits : (deadline? world.clock delay).isSome

variable {limit : WaitLimit} {timeout : Timeout} {delay : Nat}

theorem Starts.started (starts : limit.Starts world timeout delay) (sound : Sound world.hub.nextTimer world.hub.queue) :
    ∃ begun, world.startLimit limit = (.ok (some timeout), begun) ∧ World.Started timeout world begun ∧
      begun.clock = world.clock := by
  have fits : ∀ after, timeout.after = some after → (deadline? world.clock after).isSome := by
    intro after given
    cases starts.lasts.symm.trans given
    exact starts.fits
  obtain ⟨own, spent, -, -⟩ := starts
  cases limit with
  | never => cases own
  | after duration =>
    cases own
    obtain ⟨begun, answered, spec⟩ := World.startTimeout_spent (world.newTimeout (some duration)).2 sound spent fits
    obtain ⟨hub, timers, same⟩ := (world.newTimeout (some duration)).2.startTimeout_hub (world.newTimeout (some duration)).1
    rw [answered] at same
    refine ⟨begun, ?_, ?_, (congrArg World.clock same).trans rfl⟩
    · simp only [World.startLimit, answered]
      rfl
    · exact ⟨spec.inCallback, spec.woken, spec.events, spec.results, spec.onto, spec.others, spec.own⟩
  | under =>
    cases own
    obtain ⟨begun, answered, spec⟩ := World.startTimeout_spent world sound spent fits
    obtain ⟨hub, timers, same⟩ := world.startTimeout_hub timeout
    rw [answered] at same
    refine ⟨begun, ?_, spec, (congrArg World.clock same).trans rfl⟩
    simp only [World.startLimit, spent, answered]
    rfl

/-- The timer that the wait arms. -/
def timerOf (world : World Q ν σ) (timeout : Timeout) (delay : Nat) : Alarm × Action ν σ :=
  (⟨world.clock + delay, world.hub.nextTimer⟩, .raise timeout.error)

/-- Whichever of the two waits, `watched` is the world once its waiter is signed on and `last` once it is signed off. -/
theorem Starts.cutShort (starts : limit.Starts world timeout delay) (recorded : world.Recorded)
    (undisturbed : Undisturbed world) {turns : Nat} (enough : (armed world.hub.queue).length + 3 ≤ turns)
    (soonest : Soonest alarm error (timerOf world timeout delay :: armed world.hub.queue)) :
    ∃ begun, world.startLimit limit = (.ok (some timeout), begun) ∧ begun.events = world.events ∧
      begun.results = world.results ∧ ∀ watched : World Q ν σ, watched.clock = begun.clock → watched.hub = begun.hub →
      watched.timers = begun.timers → ∃ after, Run.Breaks turns turns watched error after ∧
        ∀ last : World Q ν σ, last.clock = after.clock → last.hub = after.hub → last.timers = after.timers →
          CutShort alarm world (last.endLimit (some timeout)) := by
  obtain ⟨begun, answered, started, clock⟩ := starts.started undisturbed.sound
  have onto : (armed begun.hub.queue).Perm (timerOf world timeout delay :: armed world.hub.queue) := by
    have onto := started.onto
    rwa [starts.lasts] at onto
  have own : begun.timers.get? timeout.id = some world.hub.nextTimer := by
    rw [started.own, starts.lasts]
    rfl
  have steps := world.startLimit_steps limit
  rw [answered] at steps
  have calm := started.undisturbed (recorded.steps steps).sound undisturbed
  refine ⟨begun, answered, started.events, started.results, fun watched sameClock hub timers => ?_⟩
  have watching := calm.of_hub_eq hub
  have room : (armed watched.hub.queue).length + watched.hub.woken.toNat < turns := by
    have bit := Bool.toNat_le watched.hub.woken
    rw [hub, onto.length_eq, List.length_cons]
    rw [hub] at bit
    omega
  have first : Soonest alarm error (armed watched.hub.queue) := hub ▸ soonest.perm onto.symm
  have two : 2 ≤ turns := by omega
  obtain ⟨after, short, kept, breaks⟩ := Run.cutShort watching two room first
  refine ⟨after, breaks, fun last lastClock lastHub lastTimers => ?_⟩
  have lastSound : Sound last.hub.nextTimer last.hub.queue := lastHub ▸ short.sound
  have stopped := World.cancelTimeout_stopped lastSound timeout
  refine ⟨?_, stopped.sound, fun held member => ?_⟩
  · rw [World.endLimit, (last.cancelTimeout_keeps timeout).1, lastClock, short.clock, sameClock, clock]
  · obtain ⟨member, other⟩ := World.mem_armed_stopped lastSound timeout held member
    rw [lastHub] at member
    obtain ⟨before, different⟩ := short.kept held member
    rw [hub, onto.mem_iff] at before
    obtain rfl | before := List.mem_cons.mp before
    · rw [lastTimers, kept, timers, own] at other
      exact absurd rfl other
    · exact ⟨before, different⟩

end WaitLimit

namespace Run

variable {limit : WaitLimit} {timeout : Timeout} {delay turns : Nat}

/-- A wait takes its own timeout's error for an answer. -/
theorem wait_cutShort (starts : limit.Starts world timeout delay) (recorded : world.Recorded)
    (undisturbed : Undisturbed world) (enough : (armed world.hub.queue).length + 3 ≤ turns)
    (soonest : Soonest alarm error (WaitLimit.timerOf world timeout delay :: armed world.hub.queue))
    {id : EventId} (unset : (world.event id).isSet = false) :
    ∃ after, Run.wait turns (Run.switch turns) id limit world =
        some (if timeout.elapsedIn error then .ok .timedOut else .error (.failed error), after) ∧
      CutShort alarm world after := by
  obtain ⟨begun, answered, events, -, ends⟩ := starts.cutShort recorded undisturbed enough soonest
  have unset' : ((begun.addEventWaiter id).event id).isSet = false := by
    simpa [World.addEventWaiter, World.event, World.setEventState, events] using unset
  obtain ⟨after, breaks, last⟩ := ends (begun.addEventWaiter id) rfl rfl rfl
  refine ⟨(after.removeEventWaiter id).endLimit (some timeout), ?_, last _ rfl rfl rfl⟩
  simp only [Run.wait, unset, answered, breaks.waits id unset', Option.any_some, Bool.false_eq_true, if_false]
  split <;> rfl

theorem get_cutShort (starts : limit.Starts world timeout delay) (recorded : world.Recorded)
    (undisturbed : Undisturbed world) (enough : (armed world.hub.queue).length + 3 ≤ turns)
    (soonest : Soonest alarm error (WaitLimit.timerOf world timeout delay :: armed world.hub.queue))
    {id : ResultId} (unready : (world.result id).value = none) :
    ∃ after, Run.get turns (Run.switch turns) id limit world = some (.error (.failed error), after) ∧
      CutShort alarm world after := by
  obtain ⟨begun, answered, -, results, ends⟩ := starts.cutShort recorded undisturbed enough soonest
  have unready' : ((begun.addResultWaiter id).result id).value = none := by
    simpa [World.addResultWaiter, World.result, World.setResultState, results] using unready
  obtain ⟨after, breaks, last⟩ := ends (begun.addResultWaiter id) rfl rfl rfl
  refine ⟨(after.removeResultWaiter id).endLimit (some timeout), ?_, last _ rfl rfl rfl⟩
  simp only [Run.get, unready, answered, breaks.gets id unready']

end Run

end Testbench
