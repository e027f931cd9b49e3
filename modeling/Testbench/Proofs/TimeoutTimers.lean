import Testbench.Proofs.HubJournal
import Testbench.Proofs.LazyQueueLaws

/-! The timers that timeouts hold. A timer is held by one timeout at most, and while it is armed it is there to
raise that timeout's error. -/

namespace Testbench

open LawfulQueue (armed Sound)

variable {ν σ : Type} {Q : Type 1} [TimerQueue (Action ν σ) Q]

theorem eq_add_of_deadline? {now delay deadline : Nat} (due : deadline? now delay = some deadline) :
    deadline = now + delay := by
  obtain ⟨-, same⟩ := Option.ite_none_right_eq_some.mp due
  exact (Option.some.inj same).symm

/-- The clock can express every instant before one that it can express. -/
theorem fits_sooner {now now' delay delay' : Nat} (before : now ≤ now') (shorter : delay ≤ delay')
    (fits : (deadline? now' delay').isSome) : (deadline? now delay).isSome := by
  unfold deadline? at fits ⊢
  split at fits
  next within =>
    have sooner := Nat.div_le_div_right (c := nanosPerSecond) (Nat.add_le_add (Nat.add_le_add_left before clockOrigin) shorter)
    rw [if_pos (Nat.le_trans sooner within)]
    rfl
  next => cases fits

namespace World

variable {world after : World Q ν σ}

theorem schedule_eq (world : World Q ν σ) {delay deadline : Nat} (due : deadline? world.clock delay = some deadline) (action : Action ν σ) :
    ∃ after, world.schedule delay action = (.ok world.hub.nextTimer, after) := by
  simp only [schedule, updateNow, due]
  exact ⟨_, rfl⟩

variable [LawfulQueue Q]

theorem schedule_armed (world : World Q ν σ) (sound : Sound world.hub.nextTimer world.hub.queue) {delay timer : Nat} {action : Action ν σ}
    (answered : world.schedule delay action = (.ok timer, after)) :
    timer = world.hub.nextTimer ∧ after.hub.nextTimer = timer + 1 ∧ after.timers = world.timers ∧
      (armed after.hub.queue).Perm ((⟨world.clock + delay, timer⟩, action) :: armed world.hub.queue) := by
  simp only [schedule, updateNow] at answered
  split at answered
  · cases answered
  next deadline due =>
    obtain rfl := eq_add_of_deadline? due
    cases answered
    exact ⟨rfl, rfl, rfl, LawfulQueue.armed_arm _ action sound⟩

/-- Whether it is armed or not, a timer that is asked for has a new number. -/
theorem mem_armed_schedule (sound : Sound world.hub.nextTimer world.hub.queue) (delay : Nat) (action : Action ν σ) :
    ∀ held ∈ armed (world.schedule delay action).2.hub.queue,
      held ∈ armed world.hub.queue ∨ held.1.id = world.hub.nextTimer ∧ held.2 = action := by
  intro held member
  rcases answered : world.schedule delay action with ⟨_ | timer, after⟩
  · rw [answered] at member
    simp only [schedule, updateNow] at answered
    split at answered
    · cases answered; exact .inl member
    · cases answered
  · obtain ⟨rfl, -, -, onto⟩ := schedule_armed world sound answered
    rw [answered] at member
    obtain rfl | before := List.mem_cons.mp (onto.mem_iff.mp member)
    · exact .inr ⟨rfl, rfl⟩
    · exact .inl before

theorem armed_cancel (sound : Sound world.hub.nextTimer world.hub.queue) (timer : Nat) :
    (armed (world.cancel timer).2.hub.queue).Perm ((armed world.hub.queue).filter (·.1.id ≠ timer)) := by
  unfold World.cancel
  split
  next refused =>
    have others : ∀ held ∈ armed world.hub.queue, held.1.id ≠ timer := by
      intro held member same
      have isArmed := (LawfulQueue.isArmed_iff timer sound).mpr ⟨held, member, same⟩
      exact Bool.noConfusion (isArmed.symm.trans (LawfulQueue.cancel_none sound refused))
    exact .of_eq (List.filter_eq_self.mpr fun held member => decide_eq_true (others held member)).symm
  next dropping => exact (LawfulQueue.cancel_some sound dropping).2.2

structure Holding (world : World Q ν σ) : Prop where
  numbered : ∀ timeout timer, world.timers.get? timeout = some timer → timer < world.hub.nextTimer
  apart : ∀ timeout other timer, world.timers.get? timeout = some timer → world.timers.get? other = some timer →
    timeout = other
  /-- A timeout and its copies are known by their number. -/
  raises : ∀ timeout timer, world.timers.get? timeout = some timer → ∀ held ∈ armed world.hub.queue, held.1.id = timer →
    ∃ copy : Timeout, copy.id = timeout ∧ held.2 = .raise copy.error

namespace Holding

theorem fresh (front : Front) (memory : σ) :
    Holding ({ hub := { queue := (TimerQueue.empty : Q) }, front, memory } : World Q ν σ) where
  numbered := fun _ _ held => by cases held
  apart := fun _ _ _ held => by cases held
  raises := fun _ _ held => by cases held

/-- No timeout got a timer, and of the timers only those with new numbers are new. -/
theorem carry (holding : Holding world) (numbers : world.hub.nextTimer ≤ after.hub.nextTimer)
    (timers : ∀ timeout timer, after.timers.get? timeout = some timer → world.timers.get? timeout = some timer)
    (known : ∀ held ∈ armed after.hub.queue, held ∈ armed world.hub.queue ∨ held.1.id = world.hub.nextTimer) :
    Holding after where
  numbered timeout timer held := Nat.lt_of_lt_of_le (holding.numbered timeout timer (timers _ _ held)) numbers
  apart timeout other timer held held' := holding.apart timeout other timer (timers _ _ held) (timers _ _ held')
  raises timeout timer held := by
    intro found member same
    have old := timers _ _ held
    have numbered := holding.numbered timeout timer old
    rcases known found member with before | new
    · exact holding.raises timeout timer old found before same
    · omega

theorem schedule (holding : Holding world) (sound : Sound world.hub.nextTimer world.hub.queue) (delay : Nat)
    (action : Action ν σ) : Holding (world.schedule delay action).2 := by
  refine holding.carry ?_ ?_ fun held member => (mem_armed_schedule sound delay action held member).imp_right And.left
  · simp only [World.schedule, updateNow]
    split <;> exact Nat.le_succ _
  · intro timeout timer held
    simp only [World.schedule, updateNow] at held
    split at held <;> exact held

theorem start (holding : Holding world) (sound : Sound world.hub.nextTimer world.hub.queue) {delay timer : Nat}
    {timeout : Timeout} (answered : world.schedule delay (.raise timeout.error) = (.ok timer, after)) :
    Holding { after with timers := after.timers.set timeout.id timer } := by
  obtain ⟨rfl, numbers, timers, onto⟩ := schedule_armed world sound answered
  have old (other held : Nat) (different : other ≠ timeout.id)
      (holds : (after.timers.set timeout.id world.hub.nextTimer).get? other = some held) : world.timers.get? other = some held := by
    rwa [Registry.get?_set, if_neg different, timers] at holds
  have new (held : Nat) (holds : (after.timers.set timeout.id world.hub.nextTimer).get? timeout.id = some held) :
      held = world.hub.nextTimer := by
    rw [Registry.get?_set_self] at holds
    exact (Option.some.inj holds).symm
  refine ⟨?_, ?_, ?_⟩
  · intro other held holds
    change held < after.hub.nextTimer
    by_cases same : other = timeout.id
    · subst same
      rw [new held holds]
      omega
    · have numbered := holding.numbered other held (old other held same holds)
      omega
  · intro first second held holds holds'
    by_cases same : first = timeout.id <;> by_cases same' : second = timeout.id
    · exact same.trans same'.symm
    · subst same
      have numbered := holding.numbered second held (old second held same' holds')
      rw [new held holds] at numbered
      exact absurd numbered (Nat.lt_irrefl _)
    · subst same'
      have numbered := holding.numbered first held (old first held same holds)
      rw [new held holds'] at numbered
      exact absurd numbered (Nat.lt_irrefl _)
    · exact holding.apart first second held (old _ _ same holds) (old _ _ same' holds')
  · intro other held holds found member isHeld
    obtain rfl | before := List.mem_cons.mp (onto.mem_iff.mp member)
    · by_cases same : other = timeout.id
      · exact ⟨timeout, same.symm, rfl⟩
      · have numbered := holding.numbered other held (old other held same holds)
        exact absurd isHeld (Nat.ne_of_gt numbered)
    · have numbered := LawfulQueue.numbered sound found before
      by_cases same : other = timeout.id
      · subst same
        rw [isHeld, new held holds] at numbered
        exact absurd numbered (Nat.lt_irrefl _)
      · exact holding.raises other held (old other held same holds) found before isHeld

theorem step (holding : Holding world) (sound : Sound world.hub.nextTimer world.hub.queue) (step : Step world after) :
    Holding after := by
  cases step with
  | aside clock queue now numbers timers journal =>
    refine holding.carry (Nat.le_of_eq numbers.symm) (fun _ _ held => timers ▸ held) fun held member => .inl ?_
    rwa [queue] at member
  | burn | look | note => exact holding.carry (Nat.le_refl _) (fun _ _ held => held) fun _ member => .inl member
  | schedule delay action => exact holding.schedule sound delay action
  | cancel timer =>
    unfold World.cancel
    split
    · exact holding
    next rest dropping =>
      refine holding.carry (Nat.le_refl _) (fun _ _ held => held) fun held member => .inl ?_
      exact (List.mem_filter.mp ((LawfulQueue.cancel_some sound dropping).2.2.mem_iff.mp member)).1
  | start timeout answered => exact holding.start sound answered
  | forget forgotten =>
    refine holding.carry (Nat.le_refl _) (fun timeout timer held => ?_) fun _ member => .inl member
    rw [Registry.get?_erase] at held
    split at held
    · cases held
    · exact held
  | collect =>
    refine holding.carry (Nat.le_refl _) (fun _ _ held => held) fun held member => .inl ?_
    exact (LawfulQueue.armed_collect sound).mem_iff.mp member
  | runOut found =>
    obtain ⟨-, -, empty⟩ := takeNext_none sound found
    obtain ⟨-, rfl⟩ := Prod.mk.inj found
    refine holding.carry (Nat.le_refl _) (fun _ _ held => held) fun held member => ?_
    rw [empty] at member
    cases member
  | fire found =>
    obtain ⟨-, onto, -⟩ := takeNext_some sound found
    obtain ⟨-, rfl⟩ := Prod.mk.inj found
    refine holding.carry (Nat.le_refl _) (fun _ _ held => held) fun held member => .inl ?_
    exact onto.mem_iff.mpr (List.mem_cons_of_mem _ member)

theorem steps (holding : Holding world) (recorded : Recorded world) (steps : Steps world after) : Holding after := by
  induction steps with
  | refl => exact holding
  | tail before last ih => exact ih.step (recorded.steps before).sound last

end Holding

/-! What starting and cancelling a timeout comes to. -/

theorem isPending_iff (sound : Sound world.hub.nextTimer world.hub.queue) (timeout : Timeout) :
    world.isPending timeout = true ↔
      ∃ held ∈ armed world.hub.queue, world.timers.get? timeout.id = some held.1.id := by
  unfold isPending
  cases holds : world.timers.get? timeout.id with
  | none => simp
  | some timer =>
    simp only [Option.any_some, isArmed, LawfulQueue.isArmed_iff timer sound, Option.some.injEq]
    exact exists_congr fun held => and_congr_right fun _ => eq_comm

/-- The timeout lets go of its timer, which is not armed any more. -/
theorem cancelTimeout_spent (sound : Sound world.hub.nextTimer world.hub.queue) {timeout : Timeout}
    (spent : world.isPending timeout = false) : ∃ timers, world.cancelTimeout timeout = (false, { world with timers }) ∧
      ∀ other, timers.get? other = if other = timeout.id then none else world.timers.get? other := by
  unfold isPending at spent
  unfold cancelTimeout
  cases holds : world.timers.get? timeout.id with
  | none =>
    refine ⟨world.timers, rfl, fun other => ?_⟩
    split
    next same => exact same ▸ holds
    next => rfl
  | some timer =>
    rw [holds] at spent
    have refused : TimerQueue.cancel? world.hub.queue timer = none := by
      cases dropping : TimerQueue.cancel? world.hub.queue timer with
      | none => rfl
      | some rest =>
        have isArmed := (LawfulQueue.cancel_some sound dropping).1
        exact absurd (isArmed.symm.trans spent) Bool.noConfusion
    simp only [cancel, refused]
    exact ⟨_, rfl, Registry.get?_erase world.timers timeout.id⟩

/-- A timer for the timeout, and nothing else. -/
structure Started (timeout : Timeout) (world begun : World Q ν σ) : Prop where
  inCallback : begun.hub.inCallback = world.hub.inCallback
  woken : begun.hub.woken = world.hub.woken
  events : begun.events = world.events
  results : begun.results = world.results
  onto : (armed begun.hub.queue).Perm ((timeout.after.map fun after =>
    ((⟨world.clock + after, world.hub.nextTimer⟩ : Alarm), Action.raise timeout.error)).toList ++ armed world.hub.queue)
  others : ∀ other, other ≠ timeout.id → begun.timers.get? other = world.timers.get? other
  own : begun.timers.get? timeout.id = timeout.after.map fun _ => world.hub.nextTimer

theorem startTimeout_spent (world : World Q ν σ) (sound : Sound world.hub.nextTimer world.hub.queue) {timeout : Timeout}
    (spent : world.isPending timeout = false)
    (fits : ∀ after, timeout.after = some after → (deadline? world.clock after).isSome) :
    ∃ begun, world.startTimeout timeout = (.ok (), begun) ∧ Started timeout world begun := by
  obtain ⟨timers, stopped, forgot⟩ := cancelTimeout_spent sound spent
  cases delay : timeout.after with
  | none =>
    refine ⟨{ world with timers }, by simp only [startTimeout, stopped, delay], rfl, rfl, rfl, rfl, ?_, ?_, ?_⟩
    · rw [delay]
      exact .refl _
    · intro other different
      rw [forgot, if_neg different]
    · rw [forgot, if_pos rfl, delay]
      rfl
  | some after =>
    obtain ⟨deadline, due⟩ := Option.isSome_iff_exists.mp (fits after delay)
    obtain ⟨scheduled, answered⟩ := schedule_eq { world with timers } due (.raise timeout.error)
    obtain ⟨-, -, kept, onto⟩ := schedule_armed { world with timers } sound answered
    have begun : world.startTimeout timeout =
        (.ok (), { scheduled with timers := scheduled.timers.set timeout.id world.hub.nextTimer }) := by
      simp only [startTimeout, stopped, delay, answered]
    have still : scheduled.hub.inCallback = world.hub.inCallback ∧ scheduled.hub.woken = world.hub.woken ∧
        scheduled.events = world.events ∧ scheduled.results = world.results := by
      simp only [schedule, updateNow, due] at answered
      cases answered
      exact ⟨rfl, rfl, rfl, rfl⟩
    refine ⟨_, begun, still.1, still.2.1, still.2.2.1, still.2.2.2, ?_, ?_, ?_⟩
    · rw [delay]
      exact onto
    · intro other different
      rw [Registry.get?_set, if_neg different, kept, forgot, if_neg different]
    · rw [Registry.get?_set, if_pos rfl, delay]
      rfl

/-- The timeout's timer is gone, and only that. -/
structure Stopped (timeout : Timeout) (world after : World Q ν σ) : Prop where
  sound : Sound after.hub.nextTimer after.hub.queue
  own : after.timers.get? timeout.id = none
  others : ∀ other, other ≠ timeout.id → after.timers.get? other = world.timers.get? other
  kept : ∀ held ∈ armed world.hub.queue, world.timers.get? timeout.id ≠ some held.1.id → held ∈ armed after.hub.queue

theorem cancelTimeout_stopped (sound : Sound world.hub.nextTimer world.hub.queue) (timeout : Timeout) :
    Stopped timeout world (world.cancelTimeout timeout).2 := by
  unfold cancelTimeout
  cases holds : world.timers.get? timeout.id with
  | none => exact ⟨sound, holds, fun _ _ => rfl, fun _ member _ => member⟩
  | some timer =>
    have own := Registry.get?_erase_self world.timers timeout.id
    have others (other : Nat) (different : other ≠ timeout.id) :
        (world.timers.erase timeout.id).get? other = world.timers.get? other := Registry.get?_erase_of_ne _ different
    simp only [cancel]
    split
    · exact ⟨sound, own, others, fun _ member _ => member⟩
    next rest dropping =>
      obtain ⟨-, restSound, onto⟩ := LawfulQueue.cancel_some sound dropping
      refine ⟨restSound, own, others, fun held member other => ?_⟩
      have different : held.1.id ≠ timer := fun same => other (holds.trans (congrArg some same.symm))
      exact onto.mem_iff.mpr (List.mem_filter.mpr ⟨member, decide_eq_true different⟩)

theorem Stopped.not_pending {timeout : Timeout} (stopped : Stopped timeout world after) :
    after.isPending timeout = false := by
  simp only [isPending, stopped.own, Option.any_none]

end World

end Testbench
