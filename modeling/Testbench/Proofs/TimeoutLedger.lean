import Testbench.Proofs.OwnTimers
import Testbench.Proofs.SleepTimers

/-! The one timer of a timeout. A ledger is kept of all that was ever armed for timeouts: who was started, and which timer
that took. Whatever happens then, and in whatever order, of all the timers in the ledger that were armed for a timeout and
its copies only the latest can be armed still, and it raises the error of the copy it was armed for. -/

namespace Testbench

open LawfulQueue (armed Sound)

variable {ν σ : Type} {Q : Type 1} [TimerQueue (Action ν σ) Q]

/-- A timeout was started, and the timer was armed for it. -/
structure Start where
  timeout : Timeout
  alarm : Alarm
deriving DecidableEq

namespace World

/-- All that can happen in a run, except that a timeout is started. -/
inductive Moves : World Q ν σ → World Q ν σ → Prop where
  | schedule (world : World Q ν σ) (delay : Nat) (action : Action ν σ) : Moves world (world.schedule delay action).2
  | cancel (world : World Q ν σ) (timer : Nat) : Moves world (world.cancel timer).2
  | newTimeout (world : World Q ν σ) (after : Option Nat) : Moves world (world.newTimeout after).2
  | cancelTimeout (world : World Q ν σ) (timeout : Timeout) : Moves world (world.cancelTimeout timeout).2
  | addEventWaiter (world : World Q ν σ) (id : EventId) : Moves world (world.addEventWaiter id)
  | removeEventWaiter (world : World Q ν σ) (id : EventId) : Moves world (world.removeEventWaiter id)
  | addResultWaiter (world : World Q ν σ) (id : ResultId) : Moves world (world.addResultWaiter id)
  | removeResultWaiter (world : World Q ν σ) (id : ResultId) : Moves world (world.removeResultWaiter id)
  | answer {world after : World Q ν σ} {turns : Nat} {switch : Run.Switch Q ν σ} {α : Type} {request : Request ν σ α}
      {reply : α} (other : request.ofTimers = false)
      (answered : Run.answer turns switch request world = some (reply, after)) : Moves world after
  | beginSwitch (world : World Q ν σ) : Moves world world.beginSwitch
  | wake (world : World Q ν σ) : Moves world world.wake
  | clearWoken (world : World Q ν σ) : Moves world world.clearWoken
  | setInCallback (world : World Q ν σ) (inCallback : Bool) : Moves world (world.setInCallback inCallback)
  | runOut {world rest : World Q ν σ} (found : world.takeNext = (none, rest)) : Moves world rest
  | fire {world rest : World Q ν σ} {alarm : Alarm} {action : Action ν σ}
      (found : world.takeNext = (some (alarm, action), rest)) : Moves world (rest.arrive alarm)
  | reportFailure (world : World Q ν σ) (label : String) (error : HubError) :
      Moves world (world.reportFailure label error)

/-- What a start of the timeout adds to the ledger. -/
def startOf (world : World Q ν σ) (timeout : Timeout) : Option Start :=
  match timeout.after, (world.startTimeout timeout).1 with
  | some duration, .ok () => some ⟨timeout, ⟨world.clock + duration, world.hub.nextTimer⟩⟩
  | _, _ => none

/-- How a hub came from the first world to another, with all timers that timeouts were given on the way, latest first. -/
inductive Accounts (origin : World Q ν σ) : World Q ν σ → List Start → Prop where
  | begin : Accounts origin origin []
  | move {world after : World Q ν σ} {starts : List Start} (account : Accounts origin world starts)
      (moves : Moves world after) : Accounts origin after starts
  | start {world : World Q ν σ} {starts : List Start} (account : Accounts origin world starts) (timeout : Timeout) :
      Accounts origin (world.startTimeout timeout).2 ((world.startOf timeout).toList ++ starts)

variable {origin world after : World Q ν σ} {starts : List Start}

theorem Moves.passes {R : World Q ν σ → World Q ν σ → Prop} (throughout : Run.Throughout R) (moves : Moves world after) :
    R world after := by
  cases moves with
  | schedule delay action =>
    cases action with
    | wake => exact throughout.carries.schedule world delay .wake
    | raise error => exact throughout.carries.schedule world delay (.raise error)
    | call label callback => exact throughout.call world delay label callback
  | cancel timer => exact throughout.carries.cancel world timer
  | newTimeout after => exact throughout.carries.newTimeout world after
  | cancelTimeout timeout => exact throughout.carries.cancelTimeout world timeout
  | addEventWaiter id => exact throughout.signs.addEventWaiter world id
  | removeEventWaiter id => exact throughout.signs.removeEventWaiter world id
  | addResultWaiter id => exact throughout.signs.addResultWaiter world id
  | removeResultWaiter id => exact throughout.signs.removeResultWaiter world id
  | answer other answered => exact throughout.answer other answered
  | beginSwitch => exact throughout.beginSwitch world
  | wake => exact throughout.wake world
  | clearWoken => exact throughout.clearWoken world
  | setInCallback inCallback => exact throughout.setInCallback world inCallback
  | runOut found => exact throughout.runOut found
  | fire found => exact throughout.fire found
  | reportFailure label error => exact throughout.reportFailure world label error

/-- Of every run an account can be given. -/
theorem throughout_accounts (origin : World Q ν σ) : Run.Throughout fun world after : World Q ν σ =>
    (∃ starts, Accounts origin world starts) → ∃ starts, Accounts origin after starts := by
  have moved {world after : World Q ν σ} (moves : Moves world after) :
      (∃ starts, Accounts origin world starts) → ∃ starts, Accounts origin after starts :=
    fun ⟨starts, account⟩ => ⟨starts, account.move moves⟩
  exact {
    carries := {
      refl := fun _ accounted => accounted
      trans := fun first second accounted => second (first accounted)
      schedule := fun world delay signal => moved (.schedule world delay signal.action)
      cancel := fun world timer => moved (.cancel world timer)
      newTimeout := fun world after => moved (.newTimeout world after)
      startTimeout := fun _ timeout ⟨_, account⟩ => ⟨_, account.start timeout⟩
      cancelTimeout := fun world timeout => moved (.cancelTimeout world timeout) }
    signs := {
      addEventWaiter := fun world id => moved (.addEventWaiter world id)
      removeEventWaiter := fun world id => moved (.removeEventWaiter world id)
      addResultWaiter := fun world id => moved (.addResultWaiter world id)
      removeResultWaiter := fun world id => moved (.removeResultWaiter world id) }
    answer := fun other _ _ _ answered => moved (.answer other answered)
    call := fun world delay label callback => moved (.schedule world delay (.call label callback))
    beginSwitch := fun world => moved (.beginSwitch world)
    wake := fun world => moved (.wake world)
    clearWoken := fun world => moved (.clearWoken world)
    setInCallback := fun world inCallback => moved (.setInCallback world inCallback)
    runOut := fun found => moved (.runOut found)
    fire := fun found => moved (.fire found)
    reportFailure := fun world label error => moved (.reportFailure world label error) }

theorem throughout_steps : Run.Throughout (Steps : World Q ν σ → World Q ν σ → Prop) where
  carries := {
    refl := fun _ => .refl
    trans := fun first second => first.trans second
    schedule := fun world delay signal => .single (.schedule world delay signal.action)
    cancel := cancel_steps
    newTimeout := fun _ _ => .aside rfl rfl rfl rfl rfl rfl
    startTimeout := startTimeout_steps
    cancelTimeout := cancelTimeout_steps }
  signs := {
    addEventWaiter := fun _ _ => .aside rfl rfl rfl rfl rfl rfl
    removeEventWaiter := fun _ _ => .aside rfl rfl rfl rfl rfl rfl
    addResultWaiter := fun _ _ => .aside rfl rfl rfl rfl rfl rfl
    removeResultWaiter := fun _ _ => .aside rfl rfl rfl rfl rfl rfl }
  answer other _ _ _ answered := Run.steps_answer other answered
  call world delay label callback := .single (.schedule world delay (.call label callback))
  beginSwitch := beginSwitch_steps
  wake _ := .aside rfl rfl rfl rfl rfl rfl
  clearWoken _ := .aside rfl rfl rfl rfl rfl rfl
  setInCallback _ _ := .aside rfl rfl rfl rfl rfl rfl
  runOut found := .single (.runOut found)
  fire found := .single (.fire found)
  reportFailure := reportFailure_steps

/-- A timeout that is not started can only let go of its timer. -/
theorem Moves.holds (moves : Moves world after) {timeout timer : Nat}
    (holds : after.timers.get? timeout = some timer) : world.timers.get? timeout = some timer := by
  cases moves with
  | schedule delay action =>
    unfold World.schedule at holds
    dsimp only at holds
    split at holds <;> exact holds
  | cancel timer =>
    unfold World.cancel at holds
    split at holds <;> exact holds
  | cancelTimeout own =>
    unfold World.cancelTimeout World.cancel at holds
    split at holds
    · exact holds
    have erased : (world.timers.erase own.id).get? timeout = some timer := by
      dsimp only at holds
      split at holds <;> exact holds
    rw [Registry.get?_erase] at erased
    split at erased
    · cases erased
    · exact erased
  | @answer _ _ _ _ request _ other answered =>
    cases request with
    | switch | sleep | wait | get | newTimeout | startTimeout | cancelTimeout => cases other
    | hub request =>
      cases request with
      | schedule | cancel => cases other
      | _ => cases answered; exact holds
    | setEvent event =>
      cases answered
      obtain ⟨events, woken, same⟩ := world.setEvent_eq event
      rwa [same] at holds
    | complete result value =>
      cases answered
      obtain ⟨results, woken, same⟩ := world.complete_eq result value
      rwa [same] at holds
    | _ => cases answered; exact holds
  | beginSwitch =>
    obtain ⟨front, same⟩ := world.beginSwitch_eq
    rwa [same] at holds
  | runOut found | fire found =>
    obtain ⟨-, rfl⟩ := Prod.mk.inj found
    exact holds
  | newTimeout | addEventWaiter | removeEventWaiter | addResultWaiter | removeResultWaiter | wake | clearWoken |
    setInCallback | reportFailure => exact holds

section

variable [LawfulQueue Q]

theorem Step.armed_new (step : Step world after) (sound : Sound world.hub.nextTimer world.hub.queue) :
    ∀ held ∈ armed after.hub.queue, held ∈ armed world.hub.queue ∨ world.hub.nextTimer ≤ held.1.id := by
  intro held member
  have new {action : Action ν σ}
      (known : held ∈ armed world.hub.queue ∨ held.1.id = world.hub.nextTimer ∧ held.2 = action) :
      held ∈ armed world.hub.queue ∨ world.hub.nextTimer ≤ held.1.id :=
    known.imp_right fun isNew => Nat.le_of_eq isNew.1.symm
  cases step with
  | aside _ queue => exact .inl (queue ▸ member)
  | burn | look | note | forget => exact .inl member
  | schedule delay action => exact new (mem_armed_schedule sound delay action held member)
  | @start scheduled delay timer timeout answered =>
    have known := mem_armed_schedule sound delay (.raise timeout.error) held
    rw [answered] at known
    exact new (known member)
  | cancel timer => exact .inl (Clings.mem_armed_cancel world sound timer held member).1
  | collect => exact .inl ((LawfulQueue.armed_collect sound).mem_iff.mp member)
  | runOut found =>
    obtain ⟨-, -, still⟩ := takeNext_none sound found
    rw [still] at member
    cases member
  | fire found =>
    obtain ⟨-, onto, -⟩ := takeNext_some sound found
    exact .inl (onto.mem_iff.mpr (List.mem_cons_of_mem _ member))

/-- What is armed was armed before, or its number is new. -/
theorem Steps.armed_new (steps : Steps world after) (recorded : Recorded world) :
    ∀ held ∈ armed after.hub.queue, held ∈ armed world.hub.queue ∨ world.hub.nextTimer ≤ held.1.id := by
  induction steps with
  | refl => exact fun _ => .inl
  | tail before last ih =>
    intro held member
    obtain earlier | new := last.armed_new (recorded.steps before).sound held member
    · exact ih held earlier
    · exact .inr (Nat.le_trans (Steps.holds_new before).1 new)

/-- While a timer of the ledger is armed, its timeout holds it, and it is as it was when it was armed. A timeout holds no
timer that is not in the ledger. -/
structure Ledger (world : World Q ν σ) (starts : List Start) : Prop where
  recorded : Recorded world
  clings : ∀ start ∈ starts, Clings start.timeout.id start.alarm.id world
  unchanged : ∀ start ∈ starts, ∀ held ∈ armed world.hub.queue, held.1.id = start.alarm.id →
    held = (start.alarm, .raise start.timeout.error)
  covers : ∀ timeout timer, world.timers.get? timeout = some timer →
    ∃ start ∈ starts, start.timeout.id = timeout ∧ start.alarm.id = timer
  distinct : (starts.map (·.alarm.id)).Nodup

namespace Ledger

theorem fresh (front : Front) (memory : σ) :
    Ledger ({ hub := { queue := (TimerQueue.empty : Q) }, front, memory } : World Q ν σ) [] where
  recorded := .fresh front memory
  clings := fun _ none => absurd none List.not_mem_nil
  unchanged := fun _ none => absurd none List.not_mem_nil
  covers := fun _ _ none => by cases none
  distinct := .nil

theorem unchanged_steps (ledger : Ledger world starts) (steps : Steps world after) :
    ∀ start ∈ starts, ∀ held ∈ armed after.hub.queue, held.1.id = start.alarm.id →
      held = (start.alarm, .raise start.timeout.error) := by
  intro start listed held member same
  obtain before | new := steps.armed_new ledger.recorded held member
  · exact ledger.unchanged start listed held before same
  · exact absurd (same ▸ new) (Nat.not_le_of_lt (ledger.clings start listed).known)

/-- The timeouts were left alone, or lost their timers. -/
theorem keep (ledger : Ledger world starts) (steps : Steps world after)
    (clings : ∀ start ∈ starts, Clings start.timeout.id start.alarm.id after)
    (holds : ∀ timeout timer, after.timers.get? timeout = some timer → world.timers.get? timeout = some timer) :
    Ledger after starts where
  recorded := ledger.recorded.steps steps
  clings := clings
  unchanged := ledger.unchanged_steps steps
  covers timeout timer held := ledger.covers timeout timer (holds timeout timer held)
  distinct := ledger.distinct

theorem move (ledger : Ledger world starts) (moves : Moves world after) : Ledger after starts := by
  apply ledger.keep (moves.passes throughout_steps)
  · intro start listed
    exact moves.passes (throughout_clings start.timeout.id start.alarm.id) (ledger.clings start listed)
  · exact fun _ _ => moves.holds

theorem start (ledger : Ledger world starts) (timeout : Timeout) :
    Ledger (world.startTimeout timeout).2 ((world.startOf timeout).toList ++ starts) := by
  have steps := world.startTimeout_steps timeout
  have clings (start : Start) (listed : start ∈ starts) := (ledger.clings start listed).startTimeout timeout
  have lets (other held : Nat) (holds : (world.cancelTimeout timeout).2.timers.get? other = some held) :
      world.timers.get? other = some held := (Moves.cancelTimeout world timeout).holds holds
  have begins := startTimeout_begins ledger.recorded.sound timeout
  unfold startOf
  generalize world.startTimeout timeout = started at steps clings begins ⊢
  cases begins with
  | endless endless =>
    rw [endless]
    exact ledger.keep steps clings lets
  | beyond lasts _ _ timers =>
    rw [lasts]
    exact ledger.keep steps clings fun other held holds => lets other held (timers ▸ holds)
  | @armed duration after lasts _ onto timers =>
    rw [lasts]
    let new : Start := ⟨timeout, ⟨world.clock + duration, world.hub.nextTimer⟩⟩
    change Ledger after (new :: starts)
    have recorded := ledger.recorded.steps steps
    have own : after.timers.get? timeout.id = some world.hub.nextTimer := by rw [timers, Registry.get?_set_self]
    refine ⟨recorded, ?_, ?_, ?_, ?_⟩
    · refine List.forall_mem_cons.mpr ⟨⟨recorded, ?_, fun _ => own⟩, clings⟩
      exact LawfulQueue.numbered recorded.sound _ (onto.mem_iff.mpr (List.mem_cons_self ..))
    · refine List.forall_mem_cons.mpr ⟨fun held member same => ?_, ledger.unchanged_steps steps⟩
      obtain isNew | before := List.mem_cons.mp (onto.mem_iff.mp member)
      · exact isNew
      · -- The number is spent on the new timer, so no other has it.
        have numbered := LawfulQueue.numbered (cancelTimeout_stopped ledger.recorded.sound timeout).sound held before
        rw [(world.cancelTimeout_keeps timeout).2] at numbered
        exact absurd same (Nat.ne_of_lt numbered)
    · intro other held holds
      by_cases same : other = timeout.id
      · refine ⟨new, List.mem_cons_self .., same.symm, ?_⟩
        rw [same, own] at holds
        exact Option.some.inj holds
      · rw [timers, Registry.get?_set_of_ne _ _ same] at holds
        obtain ⟨start, listed, found⟩ := ledger.covers other held (lets other held holds)
        exact ⟨start, List.mem_cons_of_mem _ listed, found⟩
    · refine List.nodup_cons.mpr ⟨fun listed => ?_, ledger.distinct⟩
      obtain ⟨start, listed, same⟩ := List.mem_map.mp listed
      exact absurd same (Nat.ne_of_lt (ledger.clings start listed).known)

theorem of_accounts (ledger : Ledger origin []) (account : Accounts origin world starts) : Ledger world starts := by
  induction account with
  | begin => exact ledger
  | move _ moves ih => exact ih.move moves
  | start _ timeout ih => exact ih.start timeout

end Ledger

/-- No timer is armed that was armed for the timeout or a copy of it. -/
def Unarmed (starts : List Start) (timeout : Timeout) (world : World Q ν σ) : Prop :=
  ∀ start ∈ starts, start.timeout.id = timeout.id → world.isArmed start.alarm.id = false

/-- What a start of the timeout does, and what is left of the timers from before. -/
inductive Renews (starts : List Start) (timeout : Timeout) (world : World Q ν σ) :
    Except Panic Unit × World Q ν σ → Prop where
  | endless {after : World Q ν σ} (endless : timeout.after = none) (unarmed : Unarmed starts timeout after) :
      Renews starts timeout world (.ok (), after)
  | beyond {duration : Nat} {after : World Q ν σ} (lasts : timeout.after = some duration)
      (overflows : deadline? world.clock duration = none) (unarmed : Unarmed starts timeout after) :
      Renews starts timeout world (.error .instantOverflow, after)
  | armed {duration : Nat} {after : World Q ν σ} (lasts : timeout.after = some duration)
      (fits : (deadline? world.clock duration).isSome) (unarmed : Unarmed starts timeout after)
      (member : (⟨world.clock + duration, world.hub.nextTimer⟩, .raise timeout.error) ∈ LawfulQueue.armed after.hub.queue) :
      Renews starts timeout world (.ok (), after)

/-- A timeout has one timer at most, which it shares with its copies. -/
structure OneTimer (starts : List Start) (timeout : Timeout) (world : World Q ν σ) : Prop where
  one : ∀ start ∈ starts, ∀ other ∈ starts, start.timeout.id = timeout.id → other.timeout.id = timeout.id →
    world.isArmed start.alarm.id = true → world.isArmed other.alarm.id = true → start = other
  pending_iff : world.isPending timeout = true ↔
    ∃ start ∈ starts, start.timeout.id = timeout.id ∧ world.isArmed start.alarm.id = true
  cancels : (world.cancelTimeout timeout).1 = world.isPending timeout
  cancelled : Unarmed starts timeout (world.cancelTimeout timeout).2
  renews : Renews starts timeout world (world.startTimeout timeout)
  /-- Unless the task is to be resumed first, the firing interrupts it. -/
  fires : ∀ alarm action rest, world.takeNext = (some (alarm, action), rest) →
    ∀ start ∈ starts, start.timeout.id = timeout.id → start.alarm.id = alarm.id →
      alarm = start.alarm ∧ action = .raise start.timeout.error ∧ Unarmed starts timeout (rest.arrive alarm) ∧
      (world.hub.woken = false → ∀ turns,
        Run.loop (turns + 1) world = some (.error (.failed start.timeout.error), rest.arrive alarm))

namespace Ledger

variable (ledger : Ledger world starts) {timeout : Timeout}

include ledger

theorem one {start other : Start} (listed : start ∈ starts) (listed' : other ∈ starts)
    (same : start.timeout.id = other.timeout.id) (isArmed : world.isArmed start.alarm.id = true)
    (isArmed' : world.isArmed other.alarm.id = true) : start = other := by
  have holds := (ledger.clings start listed).held isArmed
  have holds' := (ledger.clings other listed').held isArmed'
  rw [← same] at holds'
  exact List.inj_on_of_nodup_map ledger.distinct listed listed' (Option.some.inj (holds.symm.trans holds'))

theorem pending_iff : world.isPending timeout = true ↔
    ∃ start ∈ starts, start.timeout.id = timeout.id ∧ world.isArmed start.alarm.id = true := by
  constructor
  · intro pending
    obtain ⟨timer, holds, isArmed⟩ := (Option.any_eq_true _ _).mp pending
    obtain ⟨start, listed, same, rfl⟩ := ledger.covers timeout.id timer holds
    exact ⟨start, listed, same, isArmed⟩
  · rintro ⟨start, listed, same, isArmed⟩
    have holds := (ledger.clings start listed).held isArmed
    exact (Option.any_eq_true _ _).mpr ⟨start.alarm.id, same ▸ holds, isArmed⟩

theorem cancels : (world.cancelTimeout timeout).1 = world.isPending timeout := by
  unfold cancelTimeout isPending
  cases world.timers.get? timeout.id with
  | none => rfl
  | some timer => exact (ledger.recorded.step (.forget world timeout.id)).cancel_eq_isArmed timer

theorem cancelled : Unarmed starts timeout (world.cancelTimeout timeout).2 :=
  fun start listed same => (ledger.clings start listed).released same.symm

theorem renews : Renews starts timeout world (world.startTimeout timeout) := by
  have steps := world.startTimeout_steps timeout
  have begins := startTimeout_begins ledger.recorded.sound timeout
  have cancelled : Unarmed starts timeout (world.cancelTimeout timeout).2 := ledger.cancelled
  generalize world.startTimeout timeout = started at steps begins ⊢
  cases begins with
  | endless endless => exact .endless endless cancelled
  | beyond lasts overflows queue =>
    refine .beyond lasts overflows fun start listed same => ?_
    have unarmed := cancelled start listed same
    unfold isArmed at unarmed ⊢
    rwa [queue]
  | armed lasts fits onto =>
    refine .armed lasts fits (fun start listed same => ?_) (onto.mem_iff.mpr (List.mem_cons_self ..))
    refine Bool.eq_false_iff.mpr fun isArmed => ?_
    have recorded := ledger.recorded.steps steps
    obtain ⟨held, member, isTimer⟩ := (LawfulQueue.isArmed_iff _ recorded.sound).mp isArmed
    obtain rfl | before := List.mem_cons.mp (onto.mem_iff.mp member)
    · exact absurd isTimer.symm (Nat.ne_of_lt (ledger.clings start listed).known)
    · have stopped := cancelTimeout_stopped ledger.recorded.sound timeout
      have still := (LawfulQueue.isArmed_iff _ stopped.sound).mpr ⟨held, before, isTimer⟩
      exact Bool.noConfusion (still.symm.trans (cancelled start listed same))

theorem fires {alarm : Alarm} {action : Action ν σ} {rest : World Q ν σ}
    (found : world.takeNext = (some (alarm, action), rest)) {start : Start} (listed : start ∈ starts)
    (same : start.alarm.id = alarm.id) :
    alarm = start.alarm ∧ action = .raise start.timeout.error ∧
      Unarmed starts start.timeout (rest.arrive alarm) ∧
      (world.hub.woken = false → ∀ turns,
        Run.loop (turns + 1) world = some (.error (.failed start.timeout.error), rest.arrive alarm)) := by
  obtain ⟨sound, onto, least⟩ := takeNext_some ledger.recorded.sound found
  have member : (alarm, action) ∈ armed world.hub.queue := onto.mem_iff.mpr (List.mem_cons_self ..)
  obtain ⟨rfl, rfl⟩ := Prod.mk.inj (ledger.unchanged start listed _ member same.symm)
  refine ⟨rfl, rfl, fun other listed' ofTimeout => ?_, fun unwoken turns => ?_⟩
  · refine Bool.eq_false_iff.mpr fun isArmed' => ?_
    obtain ⟨held, still, isTimer⟩ := (LawfulQueue.isArmed_iff _ sound).mp isArmed'
    have isArmed := (LawfulQueue.isArmed_iff _ ledger.recorded.sound).mpr ⟨_, member, rfl⟩
    have wasArmed := (LawfulQueue.isArmed_iff _ ledger.recorded.sound).mpr
      ⟨held, onto.mem_iff.mpr (List.mem_cons_of_mem _ still), isTimer⟩
    obtain rfl := ledger.one listed listed' ofTimeout.symm isArmed wasArmed
    have distinct := LawfulQueue.distinct ledger.recorded.sound
    have apart := (List.pairwise_cons.mp ((onto.pairwise_iff Ne.symm).mp distinct)).1 held still
    exact apart isTimer.symm
  · rw [Run.loop_succ, Run.turn, unwoken, found]
    rfl

theorem oneTimer (timeout : Timeout) : OneTimer starts timeout world where
  one _ listed _ listed' same same' := ledger.one listed listed' (same.trans same'.symm)
  pending_iff := ledger.pending_iff
  cancels := ledger.cancels
  cancelled := ledger.cancelled
  renews := ledger.renews
  fires alarm action rest found start listed ofTimeout same := by
    obtain ⟨isAlarm, raises, unarmed, interrupts⟩ := ledger.fires found listed same
    exact ⟨isAlarm, raises, fun other listed' same' => unarmed other listed' (same'.trans ofTimeout.symm), interrupts⟩

end Ledger

end

end World

/-- At every moment of every run, whatever was started, copied, cancelled, waited on and fired before: of the timers armed
for a timeout and its copies one at most is armed still, and every copy is pending just then. Cancelling tells so and
disarms it, starting leaves only the new timer armed, and firing raises the error it was armed with. -/
theorem Bench.one_timer_each {α : Type} (front : Front) (memory : σ) (program : Program ν σ α) (turns : Nat)
    (moment : Bench ν σ) (met : program.Meets turns (Bench.fresh front memory) moment) :
    (∃ starts, World.Accounts (Bench.fresh front memory) moment starts) ∧
    ∀ starts, World.Accounts (Bench.fresh front memory) moment starts →
      ∀ timeout, World.OneTimer starts timeout moment := by
  constructor
  · exact Program.meets_passes (World.throughout_accounts (Bench.fresh front memory)) met ⟨[], .begin⟩
  · exact fun starts account => ((World.Ledger.fresh front memory).of_accounts account).oneTimer

/-- A copy with a message of its own takes the place of the timeout it was taken from. -/
def relay : Program Unit Unit (Except (Stop HubError) Waited) := do
  let timeout ← Program.ask (.newTimeout (some 5))
  let _ ← Program.ask (.startTimeout timeout)
  let _ ← Program.ask (.startTimeout { timeout with message := some "copy" })
  Program.ask (.wait ⟨0⟩ (.under timeout))

theorem relay_one_timer : ∃ moment : Bench Unit Unit, relay.Meets 0 (Bench.fresh .direct ()) moment ∧
    let timeout : Timeout := ⟨0, some 5, none, none⟩
    let starts : List Start := [⟨{ timeout with message := some "copy" }, ⟨5, 1⟩⟩, ⟨timeout, ⟨5, 0⟩⟩]
    World.Accounts (Bench.fresh .direct ()) moment starts ∧ World.OneTimer starts timeout moment ∧
      moment.isPending timeout = true ∧ moment.isArmed 0 = false ∧ moment.isArmed 1 = true := by
  let timeout : Timeout := ⟨0, some 5, none, none⟩
  let copy : Timeout := { timeout with message := some "copy" }
  let made : Bench Unit Unit := ((Bench.fresh .direct ()).newTimeout (some 5)).2
  let begun : Bench Unit Unit := (made.startTimeout timeout).2
  let moment : Bench Unit Unit := (begun.startTimeout copy).2
  have making : Run.answer 0 (Run.switch 0) (.newTimeout (some 5)) (Bench.fresh .direct ()) = some (timeout, made) := rfl
  have starting : Run.answer 0 (Run.switch 0) (.startTimeout timeout) made =
      some ((made.startTimeout timeout).1, begun) := rfl
  have copying : Run.answer 0 (Run.switch 0) (.startTimeout copy) begun =
      some ((begun.startTimeout copy).1, moment) := rfl
  have met : relay.Meets 0 (Bench.fresh .direct ()) moment := .request making (.request starting (.request copying .here))
  have account : World.Accounts (Bench.fresh .direct ()) made [] := .move .begin (.newTimeout _ _)
  have accounts := (account.start timeout).start copy
  have first : made.startOf timeout = some ⟨timeout, ⟨5, 0⟩⟩ := by decide +kernel
  have second : begun.startOf copy = some ⟨copy, ⟨5, 1⟩⟩ := by decide +kernel
  rw [first, second] at accounts
  refine ⟨moment, met, accounts, ?_, by decide +kernel, by decide +kernel, by decide +kernel⟩
  exact (Bench.one_timer_each .direct () relay 0 moment met).2 _ accounts timeout

end Testbench
