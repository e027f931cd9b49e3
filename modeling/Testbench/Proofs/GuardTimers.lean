import Testbench.Bench
import Testbench.Proofs.FiringOrder
import Testbench.Proofs.InstrumentedRuns
import Testbench.Proofs.RunInvariants
import Testbench.Proofs.TimeoutTimers

/-! The timer of a guard. It is new when its invocation begins, and when the invocation is over it is gone for good, for
no other timer is armed in its place without the guard's timeout letting go of it. -/

namespace Testbench

open LawfulQueue (armed Sound)

variable {ν σ : Type} {Q : Type 1} [TimerQueue (Action ν σ) Q]

/-- What a switch does is of no concern to the other requests. -/
theorem Run.answer_aside {turns : Nat} {switch : Run.Switch Q ν σ} {α : Type} {request : Request ν σ α}
    (other : request.ofTimers = false) (world : World Q ν σ) :
    Run.answer turns switch request world = Run.answer turns (fun _ => none) request world := by
  cases request with
  | switch | sleep | wait | get | newTimeout | startTimeout | cancelTimeout => cases other
  | _ => rfl

theorem Run.steps_answer {turns : Nat} {switch : Run.Switch Q ν σ} {α : Type} {request : Request ν σ α}
    (other : request.ofTimers = false) {world after : World Q ν σ} {reply : α}
    (answered : Run.answer turns switch request world = some (reply, after)) : World.Steps world after := by
  have silent : Run.Stepping (fun _ => none : Run.Switch Q ν σ) := fun _ _ _ ran => by cases ran
  rw [Run.answer_aside other] at answered
  exact Run.answer_steps silent turns request world reply after answered

/-- The other requests leave the timers armed that are, and the timeouts that hold them. -/
theorem Run.timers_answer [LawfulQueue Q] {turns : Nat} {switch : Run.Switch Q ν σ} {α : Type} {request : Request ν σ α}
    (other : request.ofTimers = false) {world after : World Q ν σ} {reply : α}
    (sound : Sound world.hub.nextTimer world.hub.queue)
    (answered : Run.answer turns switch request world = some (reply, after)) :
    (armed after.hub.queue).Perm (armed world.hub.queue) ∧ after.hub.nextTimer = world.hub.nextTimer ∧
      after.timers = world.timers := by
  cases request with
  | switch | sleep | wait | get | newTimeout | startTimeout | cancelTimeout => cases other
  | hub request =>
    cases request with
    | schedule | cancel => cases other
    | collect => cases answered; exact ⟨LawfulQueue.armed_collect sound, rfl, rfl⟩
    | _ => cases answered; exact ⟨.refl _, rfl, rfl⟩
  | setEvent event =>
    cases answered
    obtain ⟨events, woken, same⟩ := world.setEvent_eq event
    rw [same]
    exact ⟨.refl _, rfl, rfl⟩
  | complete result value =>
    cases answered
    obtain ⟨results, woken, same⟩ := world.complete_eq result value
    rw [same]
    exact ⟨.refl _, rfl, rfl⟩
  | _ => cases answered; exact ⟨.refl _, rfl, rfl⟩

theorem Program.run_steps {α : Type} {turns : Nat} {program : Program ν σ α} {world after : World Q ν σ} {value : α}
    (ran : program.run turns world = some (value, after)) : World.Steps world after :=
  Program.meets_steps (Program.meets_end ran)

namespace World

variable {world after : World Q ν σ}

theorem Step.clock_le (step : Step world after) : world.clock ≤ after.clock := by
  cases step with
  | aside clock => exact Nat.le_of_eq clock.symm
  | burn nanos => exact Nat.le_add_right _ _
  | look | note | forget | collect => exact Nat.le_refl _
  | schedule delay action =>
    unfold World.schedule
    dsimp only
    split <;> exact Nat.le_refl _
  | @start scheduled delay timer timeout answered =>
    have same : (world.schedule delay (.raise timeout.error)).2.clock = world.clock := by
      unfold World.schedule
      dsimp only
      split <;> rfl
    rw [answered] at same
    exact Nat.le_of_eq same.symm
  | cancel timer =>
    unfold World.cancel
    split <;> exact Nat.le_refl _
  | runOut found =>
    obtain ⟨-, rfl⟩ := Prod.mk.inj found
    exact Nat.le_refl _
  | fire found =>
    obtain ⟨-, rfl⟩ := Prod.mk.inj found
    exact Nat.le_max_left _ _

theorem Steps.clock_le (steps : Steps world after) : world.clock ≤ after.clock := by
  induction steps with
  | refl => exact Nat.le_refl _
  | tail _ last ih => exact Nat.le_trans ih last.clock_le

variable [LawfulQueue Q]

/-- While the timer is armed, it is the one the timeout holds. -/
structure Clings (timeout timer : Nat) (world : World Q ν σ) : Prop where
  recorded : Recorded world
  known : timer < world.hub.nextTimer
  held : world.isArmed timer = true → world.timers.get? timeout = some timer

namespace Clings

variable {timeout timer : Nat}

/-- No timer but new ones is armed that was not, and the timeout did not let go. -/
theorem keep (clings : Clings timeout timer world) (steps : Steps world after)
    (numbers : world.hub.nextTimer ≤ after.hub.nextTimer)
    (armings : ∀ held ∈ armed after.hub.queue, held ∈ armed world.hub.queue ∨ held.1.id = world.hub.nextTimer)
    (kept : after.isArmed timer = true → after.timers.get? timeout = world.timers.get? timeout) :
    Clings timeout timer after where
  recorded := clings.recorded.steps steps
  known := Nat.lt_of_lt_of_le clings.known numbers
  held isArmed := by
    rw [kept isArmed]
    obtain ⟨held, member, same⟩ := (LawfulQueue.isArmed_iff timer (clings.recorded.steps steps).sound).mp isArmed
    obtain before | new := armings held member
    · exact clings.held ((LawfulQueue.isArmed_iff timer clings.recorded.sound).mpr ⟨held, before, same⟩)
    · exact absurd (same.symm.trans new) (Nat.ne_of_lt clings.known)

theorem past (clings : Clings timeout timer world) (steps : Steps world after)
    (queue : after.hub.queue = world.hub.queue) (numbers : after.hub.nextTimer = world.hub.nextTimer)
    (timers : after.timers = world.timers) : Clings timeout timer after :=
  clings.keep steps (Nat.le_of_eq numbers.symm) (fun _ member => .inl (queue ▸ member)) fun _ => by rw [timers]

theorem aside (clings : Clings timeout timer world) (clock : after.clock = world.clock)
    (queue : after.hub.queue = world.hub.queue) (now : after.hub.now = world.hub.now)
    (numbers : after.hub.nextTimer = world.hub.nextTimer) (timers : after.timers = world.timers)
    (journal : after.hub.journal = world.hub.journal) : Clings timeout timer after :=
  clings.past (.aside clock queue now numbers timers journal) queue numbers timers

theorem schedule (clings : Clings timeout timer world) (delay : Nat) (action : Action ν σ) :
    Clings timeout timer (world.schedule delay action).2 := by
  apply clings.keep (.single (.schedule world delay action))
  · unfold World.schedule
    dsimp only
    split <;> exact Nat.le_succ _
  · intro held member
    exact (mem_armed_schedule clings.recorded.sound delay action held member).imp_right And.left
  · intro _
    unfold World.schedule
    dsimp only
    split <;> rfl

theorem mem_armed_cancel (world : World Q ν σ) (sound : Sound world.hub.nextTimer world.hub.queue) (other : Nat) :
    ∀ held ∈ armed (world.cancel other).2.hub.queue, held ∈ armed world.hub.queue ∧ held.1.id ≠ other := by
  intro held member
  unfold World.cancel at member
  split at member
  next refused =>
    refine ⟨member, fun same => ?_⟩
    have isArmed := (LawfulQueue.isArmed_iff other sound).mpr ⟨held, member, same⟩
    exact Bool.noConfusion (isArmed.symm.trans (LawfulQueue.cancel_none sound refused))
  next dropping =>
    obtain ⟨-, -, onto⟩ := LawfulQueue.cancel_some sound dropping
    obtain ⟨before, different⟩ := List.mem_filter.mp (onto.mem_iff.mp member)
    exact ⟨before, of_decide_eq_true different⟩

theorem cancel (clings : Clings timeout timer world) (other : Nat) : Clings timeout timer (world.cancel other).2 := by
  apply clings.keep (world.cancel_steps other)
  · unfold World.cancel
    split <;> exact Nat.le_refl _
  · exact fun held member => .inl (mem_armed_cancel world clings.recorded.sound other held member).1
  · intro _
    unfold World.cancel
    split <;> rfl

/-- When the timeout is cancelled, the timer is not armed any more. -/
theorem released (clings : Clings timeout timer world) {own : Timeout} (same : own.id = timeout) :
    (world.cancelTimeout own).2.isArmed timer = false := by
  subst same
  refine Bool.eq_false_iff.mpr fun isArmed => ?_
  have recorded := clings.recorded.steps (world.cancelTimeout_steps own)
  obtain ⟨held, member, isTimer⟩ := (LawfulQueue.isArmed_iff timer recorded.sound).mp isArmed
  unfold cancelTimeout at member
  cases holds : world.timers.get? own.id with
  | none =>
    simp only [holds] at member
    have isArmed := (LawfulQueue.isArmed_iff timer clings.recorded.sound).mpr ⟨held, member, isTimer⟩
    cases holds.symm.trans (clings.held isArmed)
  | some other =>
    simp only [holds] at member
    obtain ⟨before, different⟩ := mem_armed_cancel { world with timers := world.timers.erase own.id }
      clings.recorded.sound other held member
    have isArmed := (LawfulQueue.isArmed_iff timer clings.recorded.sound).mpr ⟨held, before, isTimer⟩
    exact different (isTimer.trans (Option.some.inj ((clings.held isArmed).symm.trans holds)))

theorem cancelTimeout (clings : Clings timeout timer world) (own : Timeout) :
    Clings timeout timer (world.cancelTimeout own).2 := by
  have stopped := cancelTimeout_stopped clings.recorded.sound own
  apply clings.keep (world.cancelTimeout_steps own)
  · unfold World.cancelTimeout World.cancel
    split
    · exact Nat.le_refl _
    · dsimp only
      split <;> exact Nat.le_refl _
  · intro held member
    unfold World.cancelTimeout at member
    split at member
    · exact .inl member
    · exact .inl (mem_armed_cancel { world with timers := world.timers.erase own.id }
        clings.recorded.sound _ held member).1
  · intro isArmed
    by_cases same : own.id = timeout
    · exact Bool.noConfusion (isArmed.symm.trans (clings.released same))
    · exact stopped.others timeout (Ne.symm same)

theorem startTimeout (clings : Clings timeout timer world) (own : Timeout) :
    Clings timeout timer (world.startTimeout own).2 := by
  have stopped := clings.cancelTimeout own
  cases delay : own.after with
  | none =>
    simp only [World.startTimeout, delay]
    exact stopped
  | some after =>
    have scheduled := stopped.schedule after (.raise own.error)
    simp only [World.startTimeout, delay]
    split
    next answered =>
      rw [answered] at scheduled
      exact scheduled
    next number begun answered =>
      obtain ⟨new, numbers, timers, onto⟩ := schedule_armed _ stopped.recorded.sound answered
      have armings : ∀ held ∈ armed begun.hub.queue,
          held ∈ armed (world.cancelTimeout own).2.hub.queue ∨ held.1.id = (world.cancelTimeout own).2.hub.nextTimer := by
        intro held member
        obtain rfl | before := List.mem_cons.mp (onto.mem_iff.mp member)
        · exact .inr new
        · exact .inl before
      apply stopped.keep (.single (.start own answered)) _ armings
      · intro isArmed
        by_cases same : own.id = timeout
        · -- The timeout lets go of the timer, and the new one has another number.
          rw [answered] at scheduled
          obtain ⟨held, member, isTimer⟩ := (LawfulQueue.isArmed_iff timer scheduled.recorded.sound).mp isArmed
          obtain before | isNew := armings held member
          · have still := (LawfulQueue.isArmed_iff timer stopped.recorded.sound).mpr ⟨held, before, isTimer⟩
            exact Bool.noConfusion (still.symm.trans (clings.released same))
          · exact absurd (isTimer.symm.trans isNew) (Nat.ne_of_lt stopped.known)
        · exact (Registry.get?_set_of_ne begun.timers number (Ne.symm same)).trans (by rw [timers])
      · change _ ≤ begun.hub.nextTimer
        omega

end Clings

/-- Whatever is asked for, a timeout does not lose the timer. -/
theorem throughout_clings (timeout timer : Nat) :
    Run.Throughout fun world after : World Q ν σ => Clings timeout timer world → Clings timeout timer after where
  carries := {
    refl := fun _ clings => clings
    trans := fun first second clings => second (first clings)
    schedule := fun _ delay signal clings => clings.schedule delay signal.action
    cancel := fun _ other clings => clings.cancel other
    newTimeout := fun _ _ clings => clings.aside rfl rfl rfl rfl rfl rfl
    startTimeout := fun _ own clings => clings.startTimeout own
    cancelTimeout := fun _ own clings => clings.cancelTimeout own }
  signs := {
    addEventWaiter := fun _ _ clings => clings.aside rfl rfl rfl rfl rfl rfl
    removeEventWaiter := fun _ _ clings => clings.aside rfl rfl rfl rfl rfl rfl
    addResultWaiter := fun _ _ clings => clings.aside rfl rfl rfl rfl rfl rfl
    removeResultWaiter := fun _ _ clings => clings.aside rfl rfl rfl rfl rfl rfl }
  answer {turns switch α request} other {world after reply} answered clings := by
    obtain ⟨onto, numbers, timers⟩ := Run.timers_answer other clings.recorded.sound answered
    exact clings.keep (Run.steps_answer other answered) (Nat.le_of_eq numbers.symm)
      (fun _ member => .inl (onto.mem_iff.mp member)) fun _ => by rw [timers]
  call _ delay label callback clings := clings.schedule delay (.call label callback)
  beginSwitch world clings := by
    have steps := world.beginSwitch_steps
    obtain ⟨front, same⟩ := world.beginSwitch_eq
    rw [same] at steps ⊢
    exact clings.past steps rfl rfl rfl
  wake _ clings := clings.aside rfl rfl rfl rfl rfl rfl
  clearWoken _ clings := clings.aside rfl rfl rfl rfl rfl rfl
  setInCallback _ _ clings := clings.aside rfl rfl rfl rfl rfl rfl
  runOut found clings := by
    obtain ⟨-, -, still⟩ := takeNext_none clings.recorded.sound found
    have steps : Steps _ _ := .single (.runOut found)
    obtain ⟨-, rfl⟩ := Prod.mk.inj found
    apply clings.keep steps (Nat.le_refl _) _ fun _ => rfl
    exact fun held member => by rw [still] at member; cases member
  fire found clings := by
    obtain ⟨-, onto, -⟩ := takeNext_some clings.recorded.sound found
    have steps : Steps _ _ := .single (.fire found)
    obtain ⟨-, rfl⟩ := Prod.mk.inj found
    apply clings.keep steps (Nat.le_refl _) _ fun _ => rfl
    exact fun held member => .inl (onto.mem_iff.mpr (List.mem_cons_of_mem _ member))
  reportFailure world label error clings := clings.past (world.reportFailure_steps label error) rfl rfl rfl

omit [LawfulQueue Q] in
theorem cancelTimeout_keeps (world : World Q ν σ) (own : Timeout) :
    (world.cancelTimeout own).2.clock = world.clock ∧
      (world.cancelTimeout own).2.hub.nextTimer = world.hub.nextTimer := by
  unfold World.cancelTimeout World.cancel
  split
  · exact ⟨rfl, rfl⟩
  · dsimp only
    split <;> exact ⟨rfl, rfl⟩

omit [LawfulQueue Q] in
theorem startGuard_steps (world : World Q ν σ) (limit : Option Nat) : Steps world (world.startGuard limit).2 := by
  cases limit with
  | none => exact .refl
  | some nanos =>
    have made : Steps world (world.newTimeout (some nanos)).2 := Steps.aside rfl rfl rfl rfl rfl rfl
    exact made.trans (startTimeout_steps _ (world.guardOf nanos))

/-- The guard's timer has the next number, and is due when the time of the invocation is over. -/
theorem startGuard_armed (recorded : Recorded world) {nanos : Nat}
    (started : world.startGuard (some nanos) = (.ok (), after)) :
    Clings world.timeoutsMade world.hub.nextTimer after ∧
      (⟨world.clock + nanos, world.hub.nextTimer⟩, .raise (world.guardOf nanos).error) ∈ armed after.hub.queue := by
  have steps := world.startGuard_steps (some nanos)
  rw [started] at steps
  have made : Recorded (world.newTimeout (some nanos)).2 := recorded.step (.aside rfl rfl rfl rfl rfl rfl)
  have stopped := made.steps (cancelTimeout_steps _ (world.guardOf nanos))
  obtain ⟨clock, numbers⟩ := (world.newTimeout (some nanos)).2.cancelTimeout_keeps (world.guardOf nanos)
  have delay : (world.guardOf nanos).after = some nanos := rfl
  simp only [startGuard, startTimeout, delay] at started
  split at started
  · cases started
  next timer scheduled answered =>
    cases started
    obtain ⟨rfl, next, -, onto⟩ := schedule_armed _ stopped.sound answered
    rw [clock, numbers] at onto
    refine ⟨⟨recorded.steps steps, ?_, fun _ => ?_⟩, onto.mem_iff.mpr (List.mem_cons_self ..)⟩
    · change world.hub.nextTimer < scheduled.hub.nextTimer
      rw [next, numbers]
      exact Nat.lt_succ_self _
    · change (scheduled.timers.set world.timeoutsMade _).get? world.timeoutsMade = _
      rw [numbers]
      exact Registry.get?_set_self _ _ _

omit [LawfulQueue Q] in
/-- A guard is refused only if no clock can express when the time is over. -/
theorem startGuard_refused {limit : Option Nat} {panic : Panic} (refused : world.startGuard limit = (.error panic, after)) :
    ∃ nanos, limit = some nanos ∧ deadline? world.clock nanos = none := by
  cases limit with
  | none => cases refused
  | some nanos =>
    obtain ⟨clock, -⟩ := (world.newTimeout (some nanos)).2.cancelTimeout_keeps (world.guardOf nanos)
    have delay : (world.guardOf nanos).after = some nanos := rfl
    refine ⟨nanos, rfl, ?_⟩
    simp only [startGuard, startTimeout, delay] at refused
    split at refused
    next answered =>
      simp only [World.schedule, updateNow] at answered
      split at answered
      next overflows =>
        rw [clock] at overflows
        exact overflows
      · cases answered
    · cases refused

/-- A timer that was armed and is not any more is gone for good. -/
theorem Recorded.gone_for_good (recorded : Recorded world) {timer : Nat}
    (known : timer ∈ world.scheduled.map (·.id)) (disarmed : world.isArmed timer = false)
    (steps : Steps world after) : after.isArmed timer = false := by
  obtain ⟨fate, has, -⟩ := recorded.one_fate known
  have settled : fate ≠ .armed := by
    rintro rfl
    exact Bool.noConfusion (disarmed.symm.trans has)
  have still : timer ∈ after.scheduled.map (·.id) :=
    ((steps.journal_grows.filterMap HubEvent.arming?).map (·.id)).subset known
  obtain ⟨last, -, unique⟩ := (recorded.steps steps).one_fate still
  refine Bool.eq_false_iff.mpr fun isArmed => settled ?_
  exact (unique fate (has.for_good settled steps)).trans (unique .armed isArmed).symm

end World

/-- The guard of an invocation has a timer of its own, which is due when the whole time is over. The timer is armed when
the body begins, and it is neither there before nor ever again after the body has ended. -/
structure Guarded [LawfulQueue Q] (nanos : Nat) (invocation : Invocation Q ν σ) : Prop where
  fresh : invocation.before.hub.nextTimer ∉ invocation.before.scheduled.map (·.id)
  unseen : invocation.before.isArmed invocation.before.hub.nextTimer = false
  armed : (⟨invocation.before.clock + nanos, invocation.before.hub.nextTimer⟩,
    .raise (invocation.before.guardOf nanos).error) ∈ armed invocation.begun.hub.queue
  disarmed : ∀ later, World.Steps (invocation.left (some nanos)) later →
    later.isArmed invocation.before.hub.nextTimer = false

section

variable [LawfulQueue Q] {turns : Nat} {test : TestBody ν σ} {fixture : Fixture ν σ} {invocation : Invocation Q ν σ}

theorem Invokes.guarded {nanos : Nat} (invokes : Invokes turns (some nanos) test fixture invocation)
    (recorded : World.Recorded invocation.before) : Guarded nanos invocation := by
  obtain ⟨begun, isArmed⟩ := World.startGuard_armed recorded invokes.armed
  have ended := Program.run_passes (World.throughout_clings _ _) invokes.ran begun
  have left : World.Steps invocation.begun (invocation.left (some nanos)) :=
    (Program.run_steps invokes.ran).trans (invocation.ended.cancelTimeout_steps (invocation.before.guardOf nanos))
  have scheduled : invocation.before.hub.nextTimer ∈ invocation.begun.scheduled.map (·.id) := by
    obtain ⟨dropped, -, onto⟩ := begun.recorded.fates
    have member := onto.mem_iff.mpr (List.mem_append_left _ (List.mem_map_of_mem isArmed))
    exact List.mem_map_of_mem member
  refine ⟨fun known => ?_, Bool.eq_false_iff.mpr fun isArmed => ?_, isArmed, fun later steps => ?_⟩
  · obtain ⟨alarm, member, same⟩ := List.mem_map.mp known
    exact absurd same (Nat.ne_of_lt (recorded.numbered alarm member))
  · obtain ⟨held, member, same⟩ := (LawfulQueue.isArmed_iff _ recorded.sound).mp isArmed
    exact absurd same (Nat.ne_of_lt (LawfulQueue.numbered recorded.sound held member))
  · have known := ((World.Steps.journal_grows left |>.filterMap HubEvent.arming?).map (·.id)).subset scheduled
    exact (begun.recorded.steps left).gone_for_good known (ended.released rfl) steps

end

/-! The worlds between the beginning and the end of an instrumented test. -/

section

variable {turns : Nat} {limit : Option Nat} {test : TestBody ν σ} {fixture : Fixture ν σ} {world mid : World Q ν σ}
  {invocation : Invocation Q ν σ} {invocations : List (Invocation Q ν σ)}

theorem World.swept_steps (world : World Q ν σ) : World.Steps world world.swept := .single (.collect world)

theorem World.sampled_steps (world : World Q ν σ) : World.Steps world world.sampled := world.note_steps rfl

theorem World.setReclaim_steps (world : World Q ν σ) (enabled : Bool) : World.Steps world (world.setReclaim enabled) :=
  world.onHub_steps (.setReclaim enabled)

theorem World.endLimit_steps (world : World Q ν σ) (timeout : Option Timeout) :
    World.Steps world (world.endLimit timeout) := by
  cases timeout with
  | none => exact .refl
  | some timeout => exact world.cancelTimeout_steps timeout

theorem Invokes.steps (invokes : Invokes turns limit test fixture invocation) :
    World.Steps invocation.before (invocation.left limit) := by
  have armed := invocation.before.startGuard_steps limit
  rw [invokes.armed] at armed
  exact (armed.trans (Program.run_steps invokes.ran)).trans (invocation.ended.endLimit_steps _)

theorem CleansUp.steps (cleaned : CleansUp turns limit fixture invocation) :
    World.Steps (invocation.left limit) invocation.after := by
  unfold CleansUp at cleaned
  split at cleaned
  · rw [cleaned]
  · exact Program.run_steps cleaned

theorem Invocation.next_steps (invocation : Invocation Q ν σ) : World.Steps invocation.after invocation.next := by
  unfold Invocation.next
  split
  · exact invocation.after.sampled_steps
  · exact .refl

theorem Iterates.steps (iterates : Iterates turns limit test fixture world invocation) :
    World.Steps world invocation.before ∧ World.Steps invocation.before invocation.next := by
  refine ⟨?_, (iterates.toInvokes.steps.trans iterates.cleaned.steps).trans invocation.next_steps⟩
  rw [iterates.before]
  exact world.swept_steps.trans world.swept.sampled_steps

theorem Follows.steps (follows : Follows turns limit test fixture world invocations mid) : World.Steps world mid := by
  induction follows with
  | none => exact .refl
  | more first _ ih => exact (first.steps.1.trans first.steps.2).trans ih

end

/-- The invocation ended with the error of its guard. A body that swallows the error and goes on was not interrupted in
this sense. -/
def Invocation.Interrupted (nanos : Nat) (invocation : Invocation Q ν σ) : Prop :=
  ∃ failure, invocation.outcome = .error (.failed failure) ∧ failure.raisedBy (invocation.before.guardOf nanos) = true

/-- Every guard can be armed until the time shown by a world. -/
def GuardsFit (limit : Option Nat) (world : World Q ν σ) : Prop :=
  ∀ nanos, limit = some nanos → (deadline? world.clock nanos).isSome

/-- One of the invocations of an instrumented test, and those after it. -/
structure Placed [LawfulQueue Q] (turns : Nat) (limit : Option Nat) (test : TestBody ν σ) (fixture : Fixture ν σ)
    (invocation : Invocation Q ν σ) (later : List (Invocation Q ν σ)) : Prop where
  invokes : Invokes turns limit test fixture invocation
  guarded : ∀ nanos, limit = some nanos → Guarded nanos invocation
  interrupted : ∀ nanos, limit = some nanos → invocation.Interrupted nanos → later = []

section

variable {turns : Nat} {policy : Policy} {test : TestBody ν σ} {fixture : Fixture ν σ} {world after : World Q ν σ}
  {invocations : List (Invocation Q ν σ)} {result : Except (Stop Failure) Unit}

theorem GuardsFit.not_refused {limit : Option Nat} {later : World Q ν σ} (fits : GuardsFit limit later)
    (steps : World.Steps world later) (panic : Panic) : world.startGuard limit ≠ (.error panic, after) := by
  intro refused
  obtain ⟨nanos, isLimit, overflows⟩ := World.startGuard_refused refused
  have sooner := fits_sooner steps.clock_le (Nat.le_refl nanos) (fits nanos isLimit)
  rw [overflows] at sooner
  cases sooner

theorem Instruments.decided (instruments : Instruments turns policy test fixture world invocations result after)
    (fits : GuardsFit policy.timeout after) :
    if policy.checks world then Decided LeakCheck.defaultLimit invocations result
    else ∃ only, invocations = [only] ∧ result = only.outcome := by
  cases instruments with
  | @once invocation unchecked =>
    rw [unchecked]
    exact ⟨invocation, rfl, rfl⟩
  | @refused panic _ unchecked refused =>
    have steps := world.startGuard_steps policy.timeout
    rw [refused] at steps
    exact absurd refused (fits.not_refused steps panic)
  | @checked _ mid last _ checks follows concludes =>
    rw [checks]
    apply concludes.decided (by decide)
    intro panic refused
    have armed := mid.swept.sampled.startGuard_steps policy.timeout
    rw [refused] at armed
    have steps := armed.trans ((last.setReclaim_steps true).trans (World.swept_steps _))
    exact fits.not_refused steps panic refused

theorem Decided.interrupted {limit nanos : Nat} (decided : Decided limit invocations result)
    {earlier later : List (Invocation Q ν σ)} {invocation : Invocation Q ν σ}
    (split : invocations = earlier ++ invocation :: later) (interrupted : invocation.Interrupted nanos) : later = [] := by
  obtain ⟨failure, ended, -⟩ := interrupted
  by_contra more
  have member : invocation ∈ invocations.dropLast := by
    rw [split, List.dropLast_append_of_ne_nil (List.cons_ne_nil _ _), List.dropLast_cons_of_ne_nil more]
    exact List.mem_append_right _ (List.mem_cons_self ..)
  cases ended.symm.trans (decided.grew invocation member).passed

end

/-- A fixture whose hooks do nothing. -/
def bareFixture : Fixture Unit Nat := { case := ⟨0⟩ }

end Testbench
