import Testbench.Proofs.CallbackRefusals
import Testbench.Proofs.SwitchEndings

/-! The timers that wake. Where nobody arms such a timer but to sleep, a callback leaves none behind: its own sleep is
refused, and takes its timer back. While nobody waits, a callback does not wake the hub either. -/

namespace Testbench

open LawfulQueue (armed Sound)
open World (Steps Recorded)

variable {ν σ : Type} {Q : Type 1} [TimerQueue (Action ν σ) Q]

namespace Request

/-- The request does not wake the hub by itself, neither at once nor by a timer. -/
def SparesWake {α : Type} : Request ν σ α → Prop
  | .hub .wake | .hub (.schedule _ .wake) => False
  | _ => True

def sleeps {α : Type} : Request ν σ α → Bool
  | .sleep _ => true
  | _ => false

/-- It does not even sleep. -/
structure ArmsNoWake {α : Type} (request : Request ν σ α) : Prop where
  spares : request.SparesWake
  awake : request.sleeps = false

end Request

namespace World

theorem schedule_refused {world after : World Q ν σ} {delay : Nat} {action : Action ν σ} {panic : Panic}
    (refused : world.schedule delay action = (.error panic, after)) :
    panic = .instantOverflow ∧ deadline? world.clock delay = none := by
  simp only [World.schedule, updateNow] at refused
  split at refused
  next overflows => cases refused; exact ⟨rfl, overflows⟩
  next => cases refused

/-- No wake is pending, and nobody waits. -/
structure Idle (world : World Q ν σ) : Prop where
  unwoken : world.hub.woken = false
  alone : ∀ watched, world.waiters watched = 0

omit [TimerQueue (Action ν σ) Q] in
theorem SignsOn.alone {world after : World Q ν σ} (signs : SignsOn [] world after)
    (alone : ∀ watched, world.waiters watched = 0) (watched : Watched) : after.waiters watched = 0 := by
  have most := (signs watched).1
  rw [alone, List.count_nil] at most
  exact Nat.le_zero.mp most

variable [LawfulQueue Q] {world mid after : World Q ν σ}

/-- Of the armed timers, this one wakes and no other does. -/
structure WakesOnly (own : Option Alarm) (world : World Q ν σ) : Prop where
  recorded : Recorded world
  scheduled : ∀ alarm, own = some alarm → alarm ∈ world.scheduled
  timers : ∀ held ∈ armed world.hub.queue, held.2 = .wake ↔ own = some held.1

namespace WakesOnly

variable {own : Option Alarm}

theorem numbered (wakes : WakesOnly own world) {alarm : Alarm} (isOwn : own = some alarm) :
    alarm.id < world.hub.nextTimer :=
  wakes.recorded.numbered alarm (wakes.scheduled alarm isOwn)

/-- New timers do not wake. -/
theorem keep (wakes : WakesOnly own world) (steps : Steps world after)
    (known : ∀ held ∈ armed after.hub.queue,
      held ∈ armed world.hub.queue ∨ held.1.id = world.hub.nextTimer ∧ held.2 ≠ .wake) : WakesOnly own after where
  recorded := wakes.recorded.steps steps
  scheduled alarm isOwn := (steps.journal_grows.filterMap HubEvent.arming?).subset (wakes.scheduled alarm isOwn)
  timers held member := by
    obtain before | ⟨isNew, other⟩ := known held member
    · exact wakes.timers held before
    · exact iff_of_false other fun isOwn => Nat.ne_of_lt (wakes.numbered isOwn) isNew

theorem past (wakes : WakesOnly own world) (steps : Steps world after) (queue : after.hub.queue = world.hub.queue) :
    WakesOnly own after :=
  wakes.keep steps fun _ member => .inl (queue ▸ member)

/-- Only who waits, what is awake and the like has changed. -/
theorem aside (wakes : WakesOnly own world) (clock : after.clock = world.clock)
    (queue : after.hub.queue = world.hub.queue) (now : after.hub.now = world.hub.now)
    (numbers : after.hub.nextTimer = world.hub.nextTimer) (timers : after.timers = world.timers)
    (journal : after.hub.journal = world.hub.journal) : WakesOnly own after :=
  wakes.past (.single (.aside clock queue now numbers timers journal)) queue

theorem schedule (wakes : WakesOnly own world) (delay : Nat) (action : Action ν σ) (other : action ≠ .wake) :
    WakesOnly own (world.schedule delay action).2 :=
  wakes.keep (.single (.schedule world delay action)) fun held member =>
    (mem_armed_schedule wakes.recorded.sound delay action held member).imp_right fun ⟨isNew, isAction⟩ =>
      ⟨isNew, isAction ▸ other⟩

theorem scheduleRefused (wakes : WakesOnly own world) {delay : Nat} {action : Action ν σ} {panic : Panic}
    (refused : world.schedule delay action = (.error panic, after)) : WakesOnly own after := by
  have steps : Steps world (world.schedule delay action).2 := .single (.schedule world delay action)
  have same : (world.schedule delay action).2.hub.queue = world.hub.queue := by
    simp only [World.schedule, World.updateNow, (schedule_refused refused).2]
  rw [refused] at steps same
  exact wakes.past steps same

/-- When the one that wakes is cancelled, none does. -/
theorem cancelOwn {alarm : Alarm} (wakes : WakesOnly (some alarm) world) :
    WakesOnly none (world.cancel alarm.id).2 where
  recorded := wakes.recorded.steps (world.cancel_steps alarm.id)
  scheduled _ := nofun
  timers held member := by
    obtain ⟨before, other⟩ := List.mem_filter.mp ((armed_cancel wakes.recorded.sound alarm.id).mem_iff.mp member)
    refine iff_of_false (fun isWake => of_decide_eq_true other ?_) nofun
    rw [Option.some.inj ((wakes.timers held before).mp isWake)]

theorem cancel (wakes : WakesOnly own world) (timer : Nat) : WakesOnly own (world.cancel timer).2 :=
  wakes.keep (world.cancel_steps timer) fun _ member =>
    .inl (List.mem_of_mem_filter ((armed_cancel wakes.recorded.sound timer).mem_iff.mp member))

theorem cancelTimeout (wakes : WakesOnly own world) (timeout : Timeout) :
    WakesOnly own (world.cancelTimeout timeout).2 := by
  unfold World.cancelTimeout
  split
  · exact wakes
  · have forgot : WakesOnly own { world with timers := world.timers.erase timeout.id } :=
      wakes.past (.single (.forget world timeout.id)) rfl
    exact forgot.cancel _

theorem startTimeout (wakes : WakesOnly own world) (timeout : Timeout) :
    WakesOnly own (world.startTimeout timeout).2 := by
  have stopped := wakes.cancelTimeout timeout
  cases delay : timeout.after with
  | none => simpa only [World.startTimeout, delay] using stopped
  | some after =>
    have other : (.raise timeout.error : Action ν σ) ≠ .wake := by simp
    have new := mem_armed_schedule stopped.recorded.sound after (.raise timeout.error)
    have scheduled := stopped.schedule after (.raise timeout.error) other
    simp only [World.startTimeout, delay]
    split
    next answered => rwa [answered] at scheduled
    next answered =>
      rw [answered] at new
      refine stopped.keep (.single (.start timeout answered)) fun held member => (new held member).imp_right ?_
      rintro ⟨isNew, isRaise⟩
      exact ⟨isNew, isRaise ▸ other⟩

theorem startLimit (wakes : WakesOnly own world) (limit : WaitLimit) : WakesOnly own (world.startLimit limit).2 := by
  cases limit with
  | never => exact wakes
  | after duration =>
    have made : WakesOnly own (world.newTimeout (some duration)).2 := wakes.aside rfl rfl rfl rfl rfl rfl
    exact made.startTimeout (world.newTimeout (some duration)).1
  | under timeout =>
    simp only [World.startLimit]
    split
    · exact wakes
    · exact wakes.startTimeout timeout

theorem endLimit (wakes : WakesOnly own world) (timeout : Option Timeout) : WakesOnly own (world.endLimit timeout) := by
  cases timeout with
  | none => exact wakes
  | some timeout => exact wakes.cancelTimeout timeout

theorem beginSwitch (wakes : WakesOnly own world) : WakesOnly own world.beginSwitch := by
  have steps := world.beginSwitch_steps
  obtain ⟨front, same⟩ := world.beginSwitch_eq
  rw [same] at steps ⊢
  exact wakes.past steps rfl

theorem runOut (wakes : WakesOnly own world) (found : world.takeNext = (none, after)) : WakesOnly own after := by
  obtain ⟨-, -, empty⟩ := takeNext_none wakes.recorded.sound found
  exact wakes.keep (.single (.runOut found)) fun held member => absurd (empty ▸ member) List.not_mem_nil

theorem fire (wakes : WakesOnly own world) {alarm : Alarm} {action : Action ν σ}
    (found : world.takeNext = (some (alarm, action), after)) : WakesOnly own (after.arrive alarm) := by
  obtain ⟨-, onto, -⟩ := takeNext_some wakes.recorded.sound found
  exact wakes.keep (.single (.fire found)) fun held member => .inl (onto.mem_iff.mpr (List.mem_cons_of_mem _ member))

/-- The timer that fires wakes if and only if it is the one. -/
theorem fires (wakes : WakesOnly own world) {alarm : Alarm} {action : Action ν σ}
    (found : world.takeNext = (some (alarm, action), after)) : action = .wake ↔ own = some alarm := by
  obtain ⟨-, onto, -⟩ := takeNext_some wakes.recorded.sound found
  exact wakes.timers (alarm, action) (onto.mem_iff.mpr (List.mem_cons_self ..))

theorem atOnce (wakes : WakesOnly own world) {turns : Nat} {switch : Run.Switch Q ν σ} {β : Type}
    {request : Request ν σ β} (spares : request.SparesWake) (stays : request.maySwitch = false) {reply : β}
    (answered : Run.answer turns switch request world = some (reply, after)) : WakesOnly own after := by
  have ofRun {run : β × World Q ν σ} (kept : WakesOnly own run.2) (same : some run = some (reply, after)) :
      WakesOnly own after := by
    cases same
    exact kept
  have others (other : request.ofTimers = false) : WakesOnly own after := by
    have onto := (Run.timers_answer other wakes.recorded.sound answered).1
    exact wakes.keep (Run.steps_answer other answered) fun held member => .inl (onto.mem_iff.mp member)
  cases request with
  | switch | sleep | wait | get => cases stays
  | newTimeout duration => cases answered; exact wakes.aside rfl rfl rfl rfl rfl rfl
  | startTimeout timeout => exact ofRun (wakes.startTimeout timeout) answered
  | cancelTimeout timeout => exact ofRun (wakes.cancelTimeout timeout) answered
  | hub request =>
    cases request with
    | schedule delay signal =>
      cases signal with
      | wake => exact spares.elim
      | raise error => exact ofRun (wakes.schedule delay (.raise error) nofun) answered
    | cancel timer => exact ofRun (wakes.cancel timer) answered
    | _ => exact others rfl
  | _ => exact others rfl

/-- Whatever is asked for but a sleep, no other timer wakes. -/
theorem keeps : Run.Keeps Request.ArmsNoWake (WakesOnly own : World Q ν σ → Prop) where
  atOnce admitted stays _ _ _ wakes answered := wakes.atOnce admitted.spares stays answered
  sleeps admitted := nomatch admitted.awake
  awakes admitted := nomatch admitted.awake
  waitLimit _ := ⟨fun wakes => wakes.startLimit _, fun _ _ later => later.endLimit _⟩
  getLimit _ := ⟨fun wakes => wakes.startLimit _, fun _ _ later => later.endLimit _⟩
  addEventWaiter _ wakes := wakes.aside rfl rfl rfl rfl rfl rfl
  removeEventWaiter _ wakes := wakes.aside rfl rfl rfl rfl rfl rfl
  addResultWaiter _ wakes := wakes.aside rfl rfl rfl rfl rfl rfl
  removeResultWaiter _ wakes := wakes.aside rfl rfl rfl rfl rfl rfl
  call delay _ _ wakes := wakes.schedule delay _ nofun
  beginSwitch wakes := wakes.beginSwitch
  wake wakes := wakes.aside rfl rfl rfl rfl rfl rfl
  clearWoken wakes := wakes.aside rfl rfl rfl rfl rfl rfl
  setInCallback _ wakes := wakes.aside rfl rfl rfl rfl rfl rfl
  runOut wakes found := wakes.runOut found
  fire wakes found := wakes.fire found
  reportFailure label error wakes := wakes.past (World.reportFailure_steps _ label error) rfl

end WakesOnly

end World

namespace Run

/-! Inside callbacks. -/

section

variable {turns : Nat} {world begun after : World Q ν σ}

/-- A callback runs when a switch of its own begins. -/
theorem inside_begun {β : Type} {asked : Request ν σ β} (inside : world.hub.inCallback = true)
    (met : MeetsIn turns (switch turns) Eq asked world begun) : begun.hub.inCallback = true := by
  have refused : Along (Inside SameCallback) (fun _ => []) (switch turns : Switch Q ν σ) :=
    inside_refused inCallback_beginSwitch (loop turns)
  have within (world moment : World Q ν σ) (same : world = moment) : Inside SameCallback [] world moment :=
    same ▸ fun inside => ⟨inside, rfl⟩
  have carries : Carries (Inside SameCallback : Passage Q ν σ) := carries_sameCallback.inside
  exact (carries.meetsIn signs_sameCallback.inside refused within met inside).1

/-- Nothing comes of a request that is refused. -/
theorem uneventful_refused {β : Type} {asked : Request ν σ β} (switches : asked.maySwitch = true)
    (inside : world.hub.inCallback = true) {reply : β}
    (answered : answer turns (switch turns) asked world = some (reply, after)) : World.Uneventful world after := by
  have refused : Along (Inside fun _ => World.Uneventful) (fun _ => []) (switch turns : Switch Q ν σ) :=
    inside_refused World.Uneventful.beginSwitch (loop turns)
  have carries : Carries (Inside fun _ => (World.Uneventful : World Q ν σ → World Q ν σ → Prop)) :=
    carries_uneventful.inside
  have signs : Signs (Inside fun _ => (World.Uneventful : World Q ν σ → World Q ν σ → Prop)) := signs_uneventful.inside
  cases asked with
  | switch => exact (refused world reply after answered inside).2
  | sleep delay => exact (carries.sleep refused turns delay world reply after answered inside).2
  | wait id limit => exact (carries.wait refused signs turns id limit world reply after answered inside).2
  | get id limit => exact (carries.get refused signs turns id limit world reply after answered inside).2
  | _ => cases switches

/-- Nobody is woken by what is at once done, as long as nobody waits. -/
theorem woken_atOnce {switch : Switch Q ν σ} {β : Type} {request : Request ν σ β} (spares : request.SparesWake)
    (stays : request.maySwitch = false) (alone : ∀ watched, world.waiters watched = 0) {reply : β}
    (answered : answer turns switch request world = some (reply, after)) : after.hub.woken = world.hub.woken := by
  have ofRun {run : β × World Q ν σ} (uneventful : World.Uneventful world run.2)
      (same : some run = some (reply, after)) : after.hub.woken = world.hub.woken := by
    cases same
    exact uneventful.woken
  cases request with
  | switch | sleep | wait | get => cases stays
  | startTimeout timeout => exact ofRun (carries_uneventful.startTimeout world timeout) answered
  | cancelTimeout timeout => exact ofRun (carries_uneventful.cancelTimeout world timeout) answered
  | hub request =>
    cases request with
    | wake => exact spares.elim
    | schedule delay signal => exact ofRun (carries_uneventful.schedule world delay signal) answered
    | cancel timer => exact ofRun (carries_uneventful.cancel world timer) answered
    | _ => cases answered; rfl
  | setEvent id => cases answered; exact congrArg Hub.woken ((Completes.event id).hub_eq (alone (.event id)))
  | complete id value =>
    cases answered
    exact congrArg Hub.woken ((Completes.result id value).hub_eq (alone (.result id)))
  | _ => cases answered; rfl

theorem steady_inside {β : Type} {asked : Request ν σ β} (inside : world.hub.inCallback = true) {reply : β}
    (answered : answer turns (switch turns) asked world = some (reply, after)) :
    after.hub.inCallback = true ∧ World.SignsOn [] world after := by
  have carries : Carries (Steady : Passage Q ν σ) := carries_steady
  exact carries.answerInside carriesCallbacks_steady trivial world reply after answered inside

end

section

variable [LawfulQueue Q] {own : Option Alarm} {turns : Nat} {world mid after : World Q ν σ}

open World (WakesOnly Idle)

/-- A sleep that is refused takes its timer back. -/
theorem wakes_sleep_refused (wakes : WakesOnly own world) (inside : world.hub.inCallback = true) {delay : Nat}
    {reply : Except (Stop HubError) Unit} (slept : sleep (switch turns) delay world = some (reply, after)) :
    WakesOnly own after := by
  have steps : Steps world after := answer_steps (switch_steps turns) turns (.sleep delay) world reply after slept
  have recorded := wakes.recorded.schedule delay .wake
  have still := inCallback_schedule world delay .wake
  unfold sleep at slept
  split at slept
  next refused => cases slept; exact wakes.scheduleRefused refused
  next timer begun scheduled =>
    rw [scheduled] at recorded still
    obtain ⟨rfl, -, -, onto⟩ := World.schedule_armed world wakes.recorded.sound scheduled
    simp only [switch, guarded_refuses (still.trans inside)] at slept
    cases slept
    have sound := (recorded.steps begun.beginSwitch_steps).sound
    have added : (armed begun.beginSwitch.hub.queue).Perm
        ((⟨world.clock + delay, world.hub.nextTimer⟩, .wake) :: armed world.hub.queue) := by
      obtain ⟨front, same⟩ := begun.beginSwitch_eq
      rw [same]
      exact onto
    have undone := World.armed_cancel_new begun.beginSwitch wakes.recorded.sound sound added
    exact wakes.keep steps fun held member => .inl (undone.mem_iff.mp member)

theorem wakes_inside (wakes : WakesOnly own world) (inside : world.hub.inCallback = true) {β : Type}
    {asked : Request ν σ β} (spares : asked.SparesWake) {reply : β}
    (answered : answer turns (switch turns) asked world = some (reply, after)) : WakesOnly own after := by
  have others (awake : asked.sleeps = false) : WakesOnly own after := by
    refine WakesOnly.keeps.answer ⟨spares, awake⟩ wakes (fun begun met kept answer later switched => ?_) answered
    cases (guarded_refuses (inside_begun inside met) (loop turns)).symm.trans switched
    exact kept.beginSwitch
  cases asked with
  | sleep delay => exact wakes_sleep_refused wakes inside answered
  | _ => exact others rfl

end

section

variable {turns : Nat} {world mid after : World Q ν σ}

open World (Idle)

theorem idle_inside (idle : Idle world) (inside : world.hub.inCallback = true) {β : Type} {asked : Request ν σ β}
    (spares : asked.SparesWake) {reply : β} (answered : answer turns (switch turns) asked world = some (reply, after)) :
    Idle after := by
  refine ⟨?_, (steady_inside inside answered).2.alone idle.alone⟩
  cases switches : asked.maySwitch with
  | true => exact (uneventful_refused switches inside answered).woken.trans idle.unwoken
  | false => exact (woken_atOnce spares switches idle.alone answered).trans idle.unwoken

theorem idle_schedule (idle : Idle world) (delay : Nat) (action : Action ν σ) :
    Idle (world.schedule delay action).2 where
  unwoken := (uneventful_schedule world delay action).woken.trans idle.unwoken
  alone := (steady_schedule world delay action).alone idle.alone

theorem Confined.rest {switch : Switch Q ν σ} {calm : World Q ν σ → Prop} {admits : {β : Type} → Request ν σ β → Prop}
    {α : Type} {program rest : Program ν σ α} (confined : Confined turns switch calm admits program world)
    (reaches : Reaches turns switch program world rest mid) : Confined turns switch calm admits rest mid where
  asks asked next before later := confined.asks asked next before (reaches.trans later)
  switches begun := by
    rintro ⟨β, asked, next, before, later, met⟩
    exact confined.switches begun ⟨β, asked, next, before, reaches.trans later, met⟩

/-- What the requests of a callback keep, the callback keeps. -/
theorem Confined.callback {I : World Q ν σ → Prop} {admits : {β : Type} → Request ν σ β → Prop}
    (answers : ∀ {β : Type} {asked : Request ν σ β} {world after : World Q ν σ} {reply : β}, I world →
      world.hub.inCallback = true → admits asked → answer turns (switch turns) asked world = some (reply, after) →
        I after)
    (arms : ∀ {world : World Q ν σ} (delay : Nat) (label : String) (callback : Callback ν σ), I world →
      I (world.schedule delay (.call label callback)).2)
    {calm : World Q ν σ → Prop} {callback rest : Program ν σ (Except (Stop HubError) Unit)}
    (confined : Confined turns (switch turns) calm admits callback world) (inside : world.hub.inCallback = true)
    (kept : I world) (reaches : Reaches turns (switch turns) callback world rest mid) : I mid := by
  induction reaches with
  | here => exact kept
  | request answered _ ih =>
    have admitted := confined.asks _ _ _ .here
    exact ih (confined.rest (.request answered .here)) (steady_inside inside answered).1
      (answers kept inside admitted answered)
  | @call delay label callback _ _ _ world _ _ scheduled _ ih =>
    have armed := arms delay label callback kept
    have still := inCallback_schedule world delay (.call label callback)
    rw [scheduled] at armed still
    exact ih (confined.rest (.call scheduled .here)) (still.trans inside) armed

end

end Run

end Testbench
