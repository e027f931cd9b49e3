import Testbench.Proofs.ConfinedRuns
import Testbench.Proofs.NestedTimeouts
import Testbench.Proofs.WaitAnswers

/-! The timer of a guard that nobody else names. Whatever the guarded task asks for and its callbacks do, the guard
holds its timer, which is armed with the guard's error or has fired. -/

namespace Testbench

open LawfulQueue (armed Sound)
open World (Steps Recorded Holding)

variable {ν σ : Type} {Q : Type 1} [TimerQueue (Action ν σ) Q]

namespace Request

/-- The request can let go of the timer. -/
def Names (timeout timer : Nat) {α : Type} : Request ν σ α → Prop
  | .hub (.cancel other) => other = timer
  | .startTimeout other | .cancelTimeout other => other.id = timeout
  | .wait _ (.under other) | .get _ (.under other) => other.id = timeout
  | _ => False

/-- The request makes the hub pass the error on. -/
def PassesOn (error : HubError) {α : Type} : Request ν σ α → Prop
  | .hub (.schedule _ (.raise other)) => other = error
  | .complete _ (.error other) => other = error
  | _ => False

/-- The request leaves the guard its timer and, if so asked, the guard's error to the timer. -/
structure Respects (alone : Prop) (guard : Timeout) (timer : Nat) {α : Type} (request : Request ν σ α) : Prop where
  unnamed : ¬ request.Names guard.id timer
  unforged : alone → ¬ request.PassesOn guard.error

end Request

theorem Timeout.error_ne {guard other : Timeout} (plain : guard.exception = none) (different : other.id ≠ guard.id) :
    other.error ≠ guard.error := by
  unfold Timeout.error
  rw [plain]
  intro same
  cases substitute : other.exception <;> rw [substitute] at same
  · exact different (congrArg Elapsed.id (HubError.timeout.inj same))
  · cases same

namespace World

variable {world after : World Q ν σ}

theorem schedule_hub (world : World Q ν σ) (delay : Nat) (action : Action ν σ) :
    ∃ hub, (world.schedule delay action).2 = { world with hub } ∧ hub.nextTimer = world.hub.nextTimer + 1 := by
  unfold World.schedule
  dsimp only
  split <;> exact ⟨_, rfl, rfl⟩

theorem cancel_hub (world : World Q ν σ) (timer : Nat) :
    ∃ hub, (world.cancel timer).2 = { world with hub } ∧ hub.nextTimer = world.hub.nextTimer := by
  unfold World.cancel
  split <;> exact ⟨_, rfl, rfl⟩

theorem cancelTimeout_hub (world : World Q ν σ) (timeout : Timeout) :
    ∃ hub timers, (world.cancelTimeout timeout).2 = { world with hub, timers } ∧ hub.nextTimer = world.hub.nextTimer := by
  unfold World.cancelTimeout
  split
  · exact ⟨world.hub, world.timers, rfl, rfl⟩
  next timer _ =>
    obtain ⟨hub, same, numbers⟩ := { world with timers := world.timers.erase timeout.id }.cancel_hub timer
    exact ⟨hub, world.timers.erase timeout.id, same, numbers⟩

theorem startLimit_own {limit : WaitLimit} {timeout : Option Timeout}
    (start : world.startLimit limit = (.ok timeout, after)) : timeout = limit.own world := by
  have ofStarted {own : Timeout} (started : Except Panic Unit) (mapped : started.map (fun _ => some own) = .ok timeout) :
      timeout = some own := by
    cases started <;> cases mapped
    rfl
  cases limit with
  | never => cases start; rfl
  | after duration => exact ofStarted _ (Prod.mk.inj start).1
  | under own =>
    simp only [startLimit] at start
    split at start
    · cases start; rfl
    · exact ofStarted _ (Prod.mk.inj start).1

def HasFired (alarm : Alarm) (world : World Q ν σ) : Prop := ∃ firing ∈ world.firings, firing.alarm = alarm

omit [TimerQueue (Action ν σ) Q] in
theorem hasFired_congr (same : after.firings = world.firings) (alarm : Alarm) :
    HasFired alarm after ↔ HasFired alarm world := by
  unfold HasFired
  rw [same]

theorem HasFired.steps {alarm : Alarm} (fired : HasFired alarm world) (steps : Steps world after) :
    HasFired alarm after := by
  obtain ⟨firing, member, same⟩ := fired
  exact ⟨firing, (steps.journal_grows.filterMap HubEvent.firing?).subset member, same⟩

variable [LawfulQueue Q]

theorem armed_schedule_of_armed (sound : Sound world.hub.nextTimer world.hub.queue) (delay : Nat) (action : Action ν σ) :
    ∀ held ∈ armed world.hub.queue, held ∈ armed (world.schedule delay action).2.hub.queue := by
  intro held member
  simp only [World.schedule, updateNow]
  split
  · exact member
  · exact (LawfulQueue.armed_arm _ action sound).mem_iff.mpr (List.mem_cons_of_mem _ member)

/-- The guard holds its timer, which is armed or has fired. If so asked, nothing but the timer holds the guard's error. -/
structure Guarding (alone : Prop) (guard : Timeout) (alarm : Alarm) (world : World Q ν σ) : Prop where
  recorded : Recorded world
  holding : Holding world
  known : alarm.id < world.hub.nextTimer
  made : guard.id < world.timeoutsMade
  holds : world.timers.get? guard.id = some alarm.id
  there : (alarm, .raise guard.error) ∈ armed world.hub.queue ∨ HasFired alarm world
  raises : alone → ∀ held ∈ armed world.hub.queue, held.2 = .raise guard.error → held.1.id = alarm.id
  results : alone → ∀ id, (world.result id).value ≠ some (.error guard.error)

namespace Guarding

variable {alone : Prop} {guard : Timeout} {alarm : Alarm}

theorem keep (guarding : Guarding alone guard alarm world) (steps : Steps world after)
    (numbers : world.hub.nextTimer ≤ after.hub.nextTimer) (made : world.timeoutsMade ≤ after.timeoutsMade)
    (holds : after.timers.get? guard.id = world.timers.get? guard.id)
    (there : (alarm, .raise guard.error) ∈ armed world.hub.queue →
      (alarm, .raise guard.error) ∈ armed after.hub.queue ∨ HasFired alarm after)
    (raises : alone → ∀ held ∈ armed after.hub.queue, held ∈ armed world.hub.queue ∨ held.2 ≠ .raise guard.error)
    (results : alone → ∀ id, (after.result id).value = (world.result id).value ∨
      (after.result id).value ≠ some (.error guard.error)) : Guarding alone guard alarm after where
  recorded := guarding.recorded.steps steps
  holding := guarding.holding.steps guarding.recorded steps
  known := Nat.lt_of_lt_of_le guarding.known numbers
  made := Nat.lt_of_lt_of_le guarding.made made
  holds := holds.trans guarding.holds
  there := guarding.there.elim there fun fired => .inr (fired.steps steps)
  raises isAlone held member raised := by
    obtain before | other := raises isAlone held member
    · exact guarding.raises isAlone held before raised
    · exact absurd raised other
  results isAlone id := by
    obtain same | other := results isAlone id
    · rw [same]
      exact guarding.results isAlone id
    · exact other

/-- Timers are left alone. -/
theorem past (guarding : Guarding alone guard alarm world) (steps : Steps world after)
    (queue : after.hub.queue = world.hub.queue) (numbers : after.hub.nextTimer = world.hub.nextTimer)
    (timers : after.timers = world.timers) (made : after.timeoutsMade = world.timeoutsMade)
    (results : alone → ∀ id, (after.result id).value = (world.result id).value ∨
      (after.result id).value ≠ some (.error guard.error)) : Guarding alone guard alarm after :=
  guarding.keep steps (Nat.le_of_eq numbers.symm) (Nat.le_of_eq made.symm) (by rw [timers])
    (fun member => .inl (queue ▸ member)) (fun _ _ member => .inl (queue ▸ member)) results

/-- Results are left alone, too. -/
theorem aside (guarding : Guarding alone guard alarm world) (steps : Steps world after)
    (queue : after.hub.queue = world.hub.queue) (numbers : after.hub.nextTimer = world.hub.nextTimer)
    (timers : after.timers = world.timers) (made : after.timeoutsMade = world.timeoutsMade)
    (results : after.results = world.results) : Guarding alone guard alarm after :=
  guarding.past steps queue numbers timers made fun _ id => .inl (by simp only [World.result, results])

theorem schedule (guarding : Guarding alone guard alarm world) (delay : Nat) {action : Action ν σ}
    (other : alone → action ≠ .raise guard.error) : Guarding alone guard alarm (world.schedule delay action).2 := by
  have steps : Steps world (world.schedule delay action).2 := .single (.schedule world delay action)
  have new := mem_armed_schedule guarding.recorded.sound delay action
  have still := armed_schedule_of_armed guarding.recorded.sound delay action
  obtain ⟨hub, same, numbers⟩ := world.schedule_hub delay action
  rw [same] at steps new still ⊢
  refine guarding.keep steps (numbers ▸ Nat.le_succ _) (Nat.le_refl _) rfl (fun member => .inl (still _ member)) ?_
    fun _ _ => .inl rfl
  exact fun isAlone held member => (new held member).imp_right fun ⟨_, isAction⟩ => isAction ▸ other isAlone

theorem cancel (guarding : Guarding alone guard alarm world) {timer : Nat} (other : timer ≠ alarm.id) :
    Guarding alone guard alarm (world.cancel timer).2 := by
  have steps := world.cancel_steps timer
  have onto := armed_cancel guarding.recorded.sound timer
  obtain ⟨hub, same, numbers⟩ := world.cancel_hub timer
  rw [same] at steps onto ⊢
  refine guarding.keep steps (Nat.le_of_eq numbers.symm) (Nat.le_refl _) rfl (fun member => .inl ?_) ?_
    fun _ _ => .inl rfl
  · exact onto.mem_iff.mpr (List.mem_filter.mpr ⟨member, decide_eq_true (Ne.symm other)⟩)
  · exact fun _ held member => .inl (List.mem_of_mem_filter (onto.mem_iff.mp member))

theorem cancelTimeout (guarding : Guarding alone guard alarm world) {timeout : Timeout} (other : timeout.id ≠ guard.id) :
    Guarding alone guard alarm (world.cancelTimeout timeout).2 := by
  unfold World.cancelTimeout
  split
  · exact guarding
  next timer holds =>
    have forgot : Guarding alone guard alarm { world with timers := world.timers.erase timeout.id } := by
      refine guarding.keep (.single (.forget world timeout.id)) (Nat.le_refl _) (Nat.le_refl _) ?_ .inl
        (fun _ _ => .inl) fun _ _ => .inl rfl
      exact Registry.get?_erase_of_ne _ (Ne.symm other)
    refine forgot.cancel fun same => other ?_
    exact guarding.holding.apart timeout.id guard.id timer holds (same ▸ guarding.holds)

theorem startTimeout (guarding : Guarding alone guard alarm world) (plain : guard.exception = none) {timeout : Timeout}
    (other : timeout.id ≠ guard.id) : Guarding alone guard alarm (world.startTimeout timeout).2 := by
  have stopped := guarding.cancelTimeout other
  have raises : alone → (.raise timeout.error : Action ν σ) ≠ .raise guard.error :=
    fun _ same => Timeout.error_ne plain other (Action.raise.inj same)
  cases delay : timeout.after with
  | none => simpa only [World.startTimeout, delay] using stopped
  | some after =>
    have scheduled := stopped.schedule after raises
    simp only [World.startTimeout, delay]
    split
    next answered => rwa [answered] at scheduled
    next timer begun answered =>
      rw [answered] at scheduled
      have steps : Steps (world.cancelTimeout timeout).2 { begun with timers := begun.timers.set timeout.id timer } :=
        .single (.start timeout answered)
      exact {
        recorded := stopped.recorded.steps steps
        holding := stopped.holding.steps stopped.recorded steps
        known := scheduled.known
        made := scheduled.made
        holds := (Registry.get?_set_of_ne begun.timers timer (Ne.symm other)).trans scheduled.holds
        there := scheduled.there
        raises := scheduled.raises
        results := scheduled.results }

theorem newTimeout (guarding : Guarding alone guard alarm world) (duration : Option Nat) :
    Guarding alone guard alarm (world.newTimeout duration).2 :=
  guarding.keep (.aside rfl rfl rfl rfl rfl rfl) (Nat.le_refl _) (Nat.le_succ _) rfl .inl (fun _ _ => .inl)
    fun _ _ => .inl rfl

theorem setResult (guarding : Guarding alone guard alarm world) (id : ResultId) (result : AsyncResult ν)
    (other : alone → result.value = (world.result id).value ∨ result.value ≠ some (.error guard.error)) :
    Guarding alone guard alarm (world.setResultState id result) := by
  refine guarding.past (.aside rfl rfl rfl rfl rfl rfl) rfl rfl rfl rfl fun isAlone queried => ?_
  rw [result_setResultState]
  split
  next same => exact same ▸ other isAlone
  next => exact .inl rfl

theorem startLimit (guarding : Guarding alone guard alarm world) (plain : guard.exception = none) {limit : WaitLimit}
    (other : ∀ timeout, limit = .under timeout → timeout.id ≠ guard.id) :
    Guarding alone guard alarm (world.startLimit limit).2 := by
  cases limit with
  | never => exact guarding
  | after duration =>
    have new : (world.newTimeout (some duration)).1.id ≠ guard.id := Nat.ne_of_gt guarding.made
    exact (guarding.newTimeout (some duration)).startTimeout plain new
  | under timeout =>
    simp only [World.startLimit]
    split
    · exact guarding
    · exact guarding.startTimeout plain (other timeout rfl)

theorem own_ne (guarding : Guarding alone guard alarm world) {limit : WaitLimit}
    (other : ∀ timeout, limit = .under timeout → timeout.id ≠ guard.id) {timeout : Timeout}
    (own : limit.own world = some timeout) : timeout.id ≠ guard.id := by
  cases limit with
  | never => cases own
  | after duration => cases own; exact Nat.ne_of_gt guarding.made
  | under timeout => cases own; exact other timeout rfl

theorem keepsLimit (plain : guard.exception = none) {limit : WaitLimit}
    (other : ∀ timeout, limit = .under timeout → timeout.id ≠ guard.id) :
    Run.KeepsLimit (Guarding alone guard alarm : World Q ν σ → Prop) limit where
  begun guarding := guarding.startLimit plain other
  ends {_ _ mid timeout} guarding start later := by
    cases startLimit_own start
    cases own : limit.own _ with
    | none => exact later
    | some timeout => exact later.cancelTimeout (guarding.own_ne other own)

theorem beginSwitch (guarding : Guarding alone guard alarm world) : Guarding alone guard alarm world.beginSwitch := by
  have steps := world.beginSwitch_steps
  obtain ⟨front, same⟩ := world.beginSwitch_eq
  rw [same] at steps ⊢
  exact guarding.aside steps rfl rfl rfl rfl rfl

theorem runOut (guarding : Guarding alone guard alarm world) (found : world.takeNext = (none, after)) :
    Guarding alone guard alarm after := by
  obtain ⟨-, empty, still⟩ := takeNext_none guarding.recorded.sound found
  have steps : Steps world after := .single (.runOut found)
  obtain ⟨-, rfl⟩ := Prod.mk.inj found
  refine guarding.keep steps (Nat.le_refl _) (Nat.le_refl _) rfl (fun member => ?_) (fun _ held member => ?_)
    fun _ _ => .inl rfl
  · rw [empty] at member
    cases member
  · rw [still] at member
    cases member

omit [TimerQueue (Action ν σ) Q] [LawfulQueue Q] in
theorem hasFired_arrive (world : World Q ν σ) (fires alarm : Alarm) :
    HasFired alarm (world.arrive fires) ↔ fires = alarm ∨ HasFired alarm world := by
  change (∃ firing ∈ (⟨fires, _, _⟩ :: world.firings : List Firing), _) ↔ _
  simp only [List.mem_cons, exists_eq_or_imp]
  rfl

theorem fire (guarding : Guarding alone guard alarm world) {fires : Alarm} {action : Action ν σ}
    (found : world.takeNext = (some (fires, action), after)) : Guarding alone guard alarm (after.arrive fires) := by
  obtain ⟨-, onto, -⟩ := takeNext_some guarding.recorded.sound found
  have steps : Steps world (after.arrive fires) := .single (.fire found)
  have fired := hasFired_arrive after fires alarm
  obtain ⟨-, rfl⟩ := Prod.mk.inj found
  refine guarding.keep steps (Nat.le_refl _) (Nat.le_refl _) rfl (fun member => ?_) (fun _ held member => .inl ?_)
    fun _ _ => .inl rfl
  · obtain same | still := List.mem_cons.mp (onto.mem_iff.mp member)
    · exact .inr (fired.mpr (.inl (Prod.mk.inj same).1.symm))
    · exact .inl still
  · exact onto.mem_iff.mpr (List.mem_cons_of_mem _ member)

theorem atOnce (guarding : Guarding alone guard alarm world) (plain : guard.exception = none) {turns : Nat}
    {switch : Run.Switch Q ν σ} {β : Type} {request : Request ν σ β} (respects : request.Respects alone guard alarm.id)
    (stays : request.maySwitch = false) {reply : β}
    (answered : Run.answer turns switch request world = some (reply, after)) : Guarding alone guard alarm after := by
  cases request with
  | switch | sleep | wait | get => cases stays
  | newTimeout duration => cases answered; exact guarding.newTimeout duration
  | startTimeout timeout =>
    have started := guarding.startTimeout plain respects.unnamed
    rwa [Option.some.inj answered] at started
  | cancelTimeout timeout =>
    have stopped := guarding.cancelTimeout respects.unnamed
    rwa [Option.some.inj answered] at stopped
  | hub request =>
    cases request with
    | schedule delay signal =>
      have other (isAlone : alone) : (signal.action : Action ν σ) ≠ .raise guard.error := by
        have unforged := respects.unforged isAlone
        cases signal with
        | wake => nofun
        | raise error => exact fun same => unforged (Action.raise.inj same)
      have scheduled := guarding.schedule delay other
      have same : world.schedule delay signal.action = (reply, after) := Option.some.inj answered
      rwa [same] at scheduled
    | cancel timer =>
      have cancelled := guarding.cancel respects.unnamed
      have same : world.cancel timer = (reply, after) := Option.some.inj answered
      rwa [same] at cancelled
    | collect =>
      have steps := Run.steps_answer rfl answered
      have same := LawfulQueue.armed_collect guarding.recorded.sound
      cases answered
      exact guarding.keep steps (Nat.le_refl _) (Nat.le_refl _) rfl (fun member => .inl (same.mem_iff.mpr member))
        (fun _ held member => .inl (same.mem_iff.mp member)) fun _ _ => .inl rfl
    | _ =>
      have steps := Run.steps_answer rfl answered
      cases answered
      exact guarding.aside steps rfl rfl rfl rfl rfl
  | setEvent event =>
    have steps := Run.steps_answer rfl answered
    cases answered
    obtain ⟨events, woken, same⟩ := world.setEvent_eq event
    rw [same] at steps ⊢
    exact guarding.aside steps rfl rfl rfl rfl rfl
  | newResult =>
    cases answered
    have emptied := guarding.setResult ⟨world.resultsMade⟩ {} fun _ => .inr nofun
    exact emptied.aside (.aside rfl rfl rfl rfl rfl rfl) rfl rfl rfl rfl rfl
  | complete id value =>
    cases answered
    have stored := guarding.setResult id { world.result id with value := some value } fun isAlone => .inr ?_
    · unfold World.complete
      dsimp only
      split
      · exact stored.aside (.aside rfl rfl rfl rfl rfl rfl) rfl rfl rfl rfl rfl
      · exact stored
    · have unforged := respects.unforged isAlone
      intro same
      cases value with
      | ok => cases same
      | error error => cases same; exact unforged rfl
  | _ =>
    have steps := Run.steps_answer rfl answered
    cases answered
    exact guarding.aside steps rfl rfl rfl rfl rfl

/-- A run that respects the guard leaves it its timer. -/
theorem keeps (plain : guard.exception = none) : Run.Keeps (Request.Respects alone guard alarm.id)
    (Guarding alone guard alarm : World Q ν σ → Prop) where
  atOnce respects stays _ _ _ guarding answered := guarding.atOnce plain respects stays answered
  sleeps _ _ guarding := guarding.schedule _ fun _ => nofun
  awakes _ _ _ _ guarding scheduled later := by
    obtain ⟨rfl, -⟩ := schedule_armed _ guarding.recorded.sound scheduled
    exact later.cancel (Nat.ne_of_gt guarding.known)
  waitLimit respects := keepsLimit plain fun _ under same => by subst under; exact respects.unnamed same
  getLimit respects := keepsLimit plain fun _ under same => by subst under; exact respects.unnamed same
  addEventWaiter _ guarding := guarding.aside (.aside rfl rfl rfl rfl rfl rfl) rfl rfl rfl rfl rfl
  removeEventWaiter _ guarding := guarding.aside (.aside rfl rfl rfl rfl rfl rfl) rfl rfl rfl rfl rfl
  addResultWaiter id guarding := guarding.setResult id _ fun _ => .inl rfl
  removeResultWaiter id guarding := guarding.setResult id _ fun _ => .inl rfl
  call delay _ _ guarding := guarding.schedule delay fun _ => nofun
  beginSwitch guarding := guarding.beginSwitch
  wake guarding := guarding.aside (.aside rfl rfl rfl rfl rfl rfl) rfl rfl rfl rfl rfl
  clearWoken guarding := guarding.aside (.aside rfl rfl rfl rfl rfl rfl) rfl rfl rfl rfl rfl
  setInCallback _ guarding := guarding.aside (.aside rfl rfl rfl rfl rfl rfl) rfl rfl rfl rfl rfl
  runOut guarding found := guarding.runOut found
  fire guarding found := guarding.fire found
  reportFailure label error guarding :=
    guarding.aside (World.reportFailure_steps _ label error) rfl rfl rfl rfl rfl

end Guarding

end World

end Testbench
