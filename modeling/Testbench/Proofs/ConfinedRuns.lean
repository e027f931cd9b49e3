import Testbench.Proofs.GuardTimers
import Testbench.Proofs.RunSwitches

/-! Runs that ask for nothing but what is admitted. What a run asks shows on its way only, since a program may have more
in it than the run ever comes to. What everything admitted keeps holds at each moment of such a run. -/

namespace Testbench

variable {ν σ : Type} {Q : Type 1} [TimerQueue (Action ν σ) Q]

/-- The request may give control to the hub. -/
def Request.maySwitch {α : Type} : Request ν σ α → Bool
  | .switch | .sleep _ | .wait .. | .get .. => true
  | _ => false

namespace Run

/-- What the run asks for itself is admitted, and its switches are begun in such worlds only. -/
structure Confined (turns : Nat) (switch : Switch Q ν σ) (calm : World Q ν σ → Prop)
    (admits : {β : Type} → Request ν σ β → Prop) {α : Type} (program : Program ν σ α) (world : World Q ν σ) : Prop where
  asks : ∀ {β : Type} (asked : Request ν σ β) (next : β → Program ν σ α) (before : World Q ν σ),
    Reaches turns switch program world (.request asked next) before → admits asked
  switches : ∀ begun, Switches turns switch program world begun → calm begun

def guardedCalm (calm : World Q ν σ → Prop) (world : World Q ν σ) : Prop :=
  world.beginSwitch.hub.inCallback = false → calm world.beginSwitch

/-- Every callback that the hub's loop runs is confined. -/
def loopCalm (admits : {β : Type} → Request ν σ β → Prop) : Nat → World Q ν σ → Prop
  | 0, _ => True
  | turns + 1, world =>
    (world.hub.woken = false → ∀ alarm label callback rest, world.takeNext = (some (alarm, .call label callback), rest) →
      Confined turns (guarded (loop turns)) (guardedCalm (loopCalm admits turns)) admits callback
        ((rest.arrive alarm).setInCallback true)) ∧
    ∀ next, turn turns world = some (.stays next) → loopCalm admits turns next

end Run

/-- Neither the run nor a callback in it asks for anything else. -/
def Program.Confined (turns : Nat) (admits : {β : Type} → Request ν σ β → Prop) {α : Type} (program : Program ν σ α)
    (world : World Q ν σ) : Prop :=
  Run.Confined turns (Run.switch turns) (Run.guardedCalm (Run.loopCalm admits turns)) admits program world

section

variable {admits wider : {β : Type} → Request ν σ β → Prop}
  (implies : ∀ {β : Type} {request : Request ν σ β}, admits request → wider request)

include implies

theorem Run.Confined.mono {turns : Nat} {switch : Switch Q ν σ} {calm calmer : World Q ν σ → Prop} {α : Type}
    {program : Program ν σ α} {world : World Q ν σ} (confined : Confined turns switch calm admits program world)
    (calms : ∀ begun, calm begun → calmer begun) : Confined turns switch calmer wider program world where
  asks asked next before reaches := implies (confined.asks asked next before reaches)
  switches begun switches := calms begun (confined.switches begun switches)

theorem Run.loopCalm_mono {turns : Nat} {world : World Q ν σ} (calm : loopCalm admits turns world) :
    loopCalm wider turns world := by
  induction turns generalizing world with
  | zero => trivial
  | succ turns ih =>
    refine ⟨fun unwoken alarm label callback rest found => ?_, fun next taken => ih (calm.2 next taken)⟩
    exact (calm.1 unwoken alarm label callback rest found).mono implies fun _ within outside => ih (within outside)

theorem Program.Confined.mono {turns : Nat} {α : Type} {program : Program ν σ α} {world : World Q ν σ}
    (confined : program.Confined turns admits world) : program.Confined turns wider world :=
  Run.Confined.mono implies confined fun _ within outside => Run.loopCalm_mono implies (within outside)

end

namespace Run

/-- The limit of a wait comes and goes. -/
structure KeepsLimit (I : World Q ν σ → Prop) (limit : WaitLimit) : Prop where
  begun {world : World Q ν σ} (kept : I world) : I (world.startLimit limit).2
  ends {world begun mid : World Q ν σ} {timeout : Option Timeout} (kept : I world)
    (start : world.startLimit limit = (.ok timeout, begun)) (later : I mid) : I (mid.endLimit timeout)

/-- Everything that is admitted keeps it, and so does the hub. -/
structure Keeps (admits : {β : Type} → Request ν σ β → Prop) (I : World Q ν σ → Prop) : Prop where
  atOnce {turns : Nat} {switch : Switch Q ν σ} {β : Type} {request : Request ν σ β} (admitted : admits request)
    (stays : request.maySwitch = false) {world after : World Q ν σ} {reply : β} (kept : I world)
    (answered : Run.answer turns switch request world = some (reply, after)) : I after
  sleeps {delay : Nat} (admitted : admits (.sleep delay)) {world : World Q ν σ} (kept : I world) :
    I (world.schedule delay .wake).2
  awakes {delay timer : Nat} (admitted : admits (.sleep delay)) {world armed mid : World Q ν σ} (kept : I world)
    (scheduled : world.schedule delay .wake = (.ok timer, armed)) (later : I mid) : I (mid.cancel timer).2
  waitLimit {id : EventId} {limit : WaitLimit} (admitted : admits (.wait id limit)) : KeepsLimit I limit
  getLimit {id : ResultId} {limit : WaitLimit} (admitted : admits (.get id limit)) : KeepsLimit I limit
  addEventWaiter {world : World Q ν σ} (id : EventId) (kept : I world) : I (world.addEventWaiter id)
  removeEventWaiter {world : World Q ν σ} (id : EventId) (kept : I world) : I (world.removeEventWaiter id)
  addResultWaiter {world : World Q ν σ} (id : ResultId) (kept : I world) : I (world.addResultWaiter id)
  removeResultWaiter {world : World Q ν σ} (id : ResultId) (kept : I world) : I (world.removeResultWaiter id)
  call {world : World Q ν σ} (delay : Nat) (label : String) (callback : Callback ν σ) (kept : I world) :
    I (world.schedule delay (.call label callback)).2
  beginSwitch {world : World Q ν σ} (kept : I world) : I world.beginSwitch
  wake {world : World Q ν σ} (kept : I world) : I world.wake
  clearWoken {world : World Q ν σ} (kept : I world) : I world.clearWoken
  setInCallback {world : World Q ν σ} (inCallback : Bool) (kept : I world) : I (world.setInCallback inCallback)
  runOut {world rest : World Q ν σ} (kept : I world) (found : world.takeNext = (none, rest)) : I rest
  fire {world rest : World Q ν σ} {alarm : Alarm} {action : Action ν σ} (kept : I world)
    (found : world.takeNext = (some (alarm, action), rest)) : I (rest.arrive alarm)
  reportFailure {world : World Q ν σ} (label : String) (error : HubError) (kept : I world) :
    I (world.reportFailure label error)

/-- The switch that begins here keeps it. -/
def KeptBy (I : World Q ν σ → Prop) (switch : Switch Q ν σ) (begun : World Q ν σ) : Prop :=
  I begun → ∀ answer after, switch begun = some (answer, after) → I after

namespace Keeps

variable {admits : {β : Type} → Request ν σ β → Prop} {I : World Q ν σ → Prop} {turns left : Nat} {switch : Switch Q ν σ}
  {world after : World Q ν σ}

omit [TimerQueue (Action ν σ) Q] in
theorem untilSet {id : EventId} {answer : Except (Stop HubError) Unit} (kept : I world)
    (calm : ∀ begun, MeetsUntil switch Eq (fun world => (world.event id).isSet) left world begun → KeptBy I switch begun)
    (ran : Run.untilSet switch id left world = some (answer, after)) : I after := by
  induction left generalizing world with
  | zero => cases ran
  | succ left ih =>
    have first := calm world (.within rfl) kept
    simp only [Run.untilSet] at ran
    split at ran
    · cases ran
    next switched => cases ran; exact first _ _ switched
    next switched =>
      split at ran
      · cases ran; exact first _ _ switched
      next undone =>
        have again := fun begun met => calm begun (.again switched (Bool.eq_false_iff.mpr undone) met)
        exact ih (first _ _ switched) again ran

omit [TimerQueue (Action ν σ) Q] in
theorem untilReady {id : ResultId} {answer : Except (Stop HubError) ν} (kept : I world)
    (calm : ∀ begun, MeetsUntil switch Eq (fun world => (world.result id).isReady) left world begun →
      KeptBy I switch begun)
    (ran : Run.untilReady switch id left world = some (answer, after)) : I after := by
  induction left generalizing world with
  | zero => cases ran
  | succ left ih =>
    have first := calm world (.within rfl) kept
    simp only [Run.untilReady] at ran
    split at ran
    · cases ran
    next switched => cases ran; exact first _ _ switched
    next switched =>
      split at ran
      · cases ran; exact first _ _ switched
      next missing =>
        have undone : (World.result _ id).isReady = false := congrArg Option.isSome missing
        exact ih (first _ _ switched) (fun begun met => calm begun (.again switched undone met)) ran

omit [TimerQueue (Action ν σ) Q] in
theorem begunUntil {done : World Q ν σ → Bool} {begun : World Q ν σ} (kept : I world)
    (calm : ∀ begun, MeetsUntil switch Eq done left world begun → KeptBy I switch begun)
    (met : MeetsUntil switch Eq done left world begun) : I begun := by
  induction met with
  | within same => exact same ▸ kept
  | again switched undone _ ih =>
    exact ih (calm _ (.within rfl) kept _ _ switched) fun begun met => calm begun (.again switched undone met)

variable (keeps : Keeps admits I)

include keeps

theorem wait {id : EventId} {limit : WaitLimit} (admitted : admits (.wait id limit)) (kept : I world)
    (calm : ∀ begun, MeetsIn turns switch Eq (.wait id limit) world begun → KeptBy I switch begun)
    {reply : Except (Stop HubError) Waited} (waited : Run.wait turns switch id limit world = some (reply, after)) :
    I after := by
  have limits := keeps.waitLimit admitted
  have started := limits.begun kept
  unfold Run.wait at waited
  split at waited
  · cases waited; exact kept
  next unset =>
    split at waited
    next answered => cases waited; rwa [answered] at started
    next timeout begun answered =>
      rw [answered] at started
      have through {answer : Except (Stop HubError) Unit} {mid : World Q ν σ}
          (ran : Run.untilSet switch id turns (begun.addEventWaiter id) = some (answer, mid)) : I mid :=
        untilSet (keeps.addEventWaiter id started)
          (fun _ met => calm _ (.wait (Bool.eq_false_iff.mpr unset) answered met)) ran
      split at waited
      · cases waited
      next ran => cases waited; exact limits.ends kept answered (through ran)
      next ran =>
        have last := limits.ends kept answered (keeps.removeEventWaiter id (through ran))
        split at waited <;> cases waited <;> exact last
      next ran => cases waited; exact limits.ends kept answered (keeps.removeEventWaiter id (through ran))

theorem get {id : ResultId} {limit : WaitLimit} (admitted : admits (.get id limit)) (kept : I world)
    (calm : ∀ begun, MeetsIn turns switch Eq (.get id limit) world begun → KeptBy I switch begun)
    {reply : Except (Stop HubError) ν} (got : Run.get turns switch id limit world = some (reply, after)) : I after := by
  have limits := keeps.getLimit admitted
  have started := limits.begun kept
  unfold Run.get at got
  split at got
  · cases got; exact kept
  next missing =>
    have unready : (world.result id).isReady = false := congrArg Option.isSome missing
    split at got
    next answered => cases got; rwa [answered] at started
    next timeout begun answered =>
      rw [answered] at started
      have through {answer : Except (Stop HubError) ν} {mid : World Q ν σ}
          (ran : Run.untilReady switch id turns (begun.addResultWaiter id) = some (answer, mid)) : I mid :=
        untilReady (keeps.addResultWaiter id started) (fun _ met => calm _ (.get unready answered met)) ran
      split at got
      · cases got
      next ran => cases got; exact limits.ends kept answered (through ran)
      next ran => cases got; exact limits.ends kept answered (keeps.removeResultWaiter id (through ran))

theorem answer {β : Type} {request : Request ν σ β} (admitted : admits request) (kept : I world)
    (calm : ∀ begun, MeetsIn turns switch Eq request world begun → KeptBy I switch begun) {reply : β}
    (answered : Run.answer turns switch request world = some (reply, after)) : I after := by
  cases request with
  | switch => exact calm world (.switch rfl) kept _ _ answered
  | sleep delay =>
    have scheduled := keeps.sleeps admitted kept
    simp only [Run.answer, Run.sleep] at answered
    split at answered
    next asked => cases answered; rwa [asked] at scheduled
    next asked =>
      rw [asked] at scheduled
      have through := calm _ (.sleep asked rfl) scheduled
      split at answered
      · cases answered
      next switched => cases answered; exact through _ _ switched
      next switched => cases answered; exact keeps.awakes admitted kept asked (through _ _ switched)
  | wait id limit => exact keeps.wait admitted kept calm answered
  | get id limit => exact keeps.get admitted kept calm answered
  | _ => exact keeps.atOnce admitted rfl kept answered

/-- What holds when a request is asked still holds when a switch begins in it. -/
theorem begun {β : Type} {request : Request ν σ β} (admitted : admits request) (kept : I world)
    (calm : ∀ begun, MeetsIn turns switch Eq request world begun → KeptBy I switch begun) {begun : World Q ν σ}
    (met : MeetsIn turns switch Eq request world begun) : I begun := by
  cases met with
  | switch same => exact same ▸ kept
  | sleep scheduled same =>
    have armed := keeps.sleeps admitted kept
    rw [scheduled] at armed
    exact same ▸ armed
  | wait unset start met =>
    have started := (keeps.waitLimit admitted).begun kept
    rw [start] at started
    exact begunUntil (keeps.addEventWaiter _ started) (fun begun met => calm begun (.wait unset start met)) met
  | get unready start met =>
    have started := (keeps.getLimit admitted).begun kept
    rw [start] at started
    exact begunUntil (keeps.addResultWaiter _ started) (fun begun met => calm begun (.get unready start met)) met

theorem reaches {α : Type} {program rest : Program ν σ α} {mid : World Q ν σ} {calm : World Q ν σ → Prop}
    (confined : Confined turns switch calm admits program world) (kept : I world)
    (through : ∀ begun, calm begun → KeptBy I switch begun)
    (reaches : Reaches turns switch program world rest mid) : I mid := by
  induction reaches with
  | here => exact kept
  | request answered _ ih =>
    have calm (begun : World Q ν σ) (met : MeetsIn turns switch Eq _ _ begun) : KeptBy I switch begun :=
      through begun (confined.switches begun ⟨_, _, _, _, .here, met⟩)
    refine ih ⟨?_, ?_⟩ (keeps.answer (confined.asks _ _ _ .here) kept calm answered)
    · exact fun asked next before reaches => confined.asks asked next before (.request answered reaches)
    · exact fun begun ⟨β, asked, next, before, reaches, met⟩ =>
        confined.switches begun ⟨β, asked, next, before, .request answered reaches, met⟩
  | @call delay label callback _ _ _ _ _ _ scheduled _ ih =>
    have armed := keeps.call delay label callback kept
    rw [scheduled] at armed
    refine ih ⟨?_, ?_⟩ armed
    · exact fun asked next before reaches => confined.asks asked next before (.call scheduled reaches)
    · exact fun begun ⟨β, asked, next, before, reaches, met⟩ =>
        confined.switches begun ⟨β, asked, next, before, .call scheduled reaches, met⟩

theorem switches {α : Type} {program : Program ν σ α} {begun : World Q ν σ} {calm : World Q ν σ → Prop}
    (confined : Confined turns switch calm admits program world) (kept : I world)
    (through : ∀ begun, calm begun → KeptBy I switch begun) (switches : Switches turns switch program world begun) :
    I begun := by
  obtain ⟨β, asked, next, before, reaches, met⟩ := switches
  refine keeps.begun (confined.asks asked next before reaches) (keeps.reaches confined kept through reaches) ?_ met
  exact fun begun met => through begun (confined.switches begun ⟨β, asked, next, before, reaches, met⟩)

theorem guarded {loop : Switch Q ν σ} {calm : World Q ν σ → Prop} (through : ∀ begun, calm begun → KeptBy I loop begun)
    (begun : World Q ν σ) (within : guardedCalm calm begun) : KeptBy I (Run.guarded loop) begun := by
  intro kept answer after switched
  simp only [Run.guarded] at switched
  split at switched
  · cases switched; exact keeps.beginSwitch kept
  next outside =>
    exact through _ (within (Bool.eq_false_iff.mpr outside)) (keeps.beginSwitch kept) answer after switched

theorem turn (through : ∀ begun, loopCalm admits turns begun → KeptBy I (Run.loop turns) begun)
    (calm : loopCalm admits (turns + 1) world) (kept : I world) {taken : Turn Q ν σ}
    (ran : Run.turn turns world = some taken) : I taken.world := by
  unfold Run.turn at ran
  split at ran
  · cases ran; exact keeps.clearWoken kept
  next unwoken =>
    split at ran
    next found => cases ran; exact keeps.runOut kept found
    next alarm action rest found =>
      have fired := keeps.fire kept found
      cases action with
      | wake => cases ran; exact keeps.wake fired
      | raise error => cases ran; exact fired
      | call label callback =>
        obtain ⟨⟨outcome, after⟩, called, rfl⟩ := Option.map_eq_some_iff.mp ran
        have confined := calm.1 (Bool.eq_false_iff.mpr unwoken) alarm label callback rest found
        have ended := keeps.reaches confined (keeps.setInCallback true fired) (keeps.guarded through)
          (reaches_pure_iff.mpr called)
        have left := keeps.setInCallback false ended
        rcases outcome with (error | panic) | _
        · exact keeps.reportFailure label error left
        · exact left
        · exact left

theorem loop (turns : Nat) (world : World Q ν σ) (calm : loopCalm admits turns world) :
    KeptBy I (Run.loop turns) world := by
  induction turns generalizing world with
  | zero => intro _ _ _ ran; cases ran
  | succ turns ih =>
    intro kept answer after ran
    rw [loop_succ] at ran
    split at ran
    · cases ran
    next taken => cases ran; exact keeps.turn ih calm kept taken
    next next taken => exact ih next (calm.2 next taken) (keeps.turn ih calm kept taken) answer after ran

theorem loopMeets (turns : Nat) (world moment : World Q ν σ) (calm : loopCalm admits turns world) (kept : I world)
    (met : Run.loopMeets turns world moment) : I moment := by
  induction turns generalizing world with
  | zero => exact met.elim
  | succ turns ih =>
    obtain rfl | ⟨unwoken, alarm, label, callback, rest, found, met⟩ | ⟨next, taken, met⟩ := met
    · exact kept
    · have begun := keeps.setInCallback true (keeps.fire kept found)
      have confined := calm.1 unwoken alarm label callback rest found
      obtain ⟨rest, reaches⟩ | ⟨begun', switches, met⟩ := meets_iff.mp met
      · exact keeps.reaches confined begun (keeps.guarded (keeps.loop turns)) reaches
      · have kept' := keeps.switches confined begun (keeps.guarded (keeps.loop turns)) switches
        exact ih _ (confined.switches begun' switches met.1) (keeps.beginSwitch kept') met.2
    · exact ih next (calm.2 next taken) (keeps.turn (keeps.loop turns) calm kept taken) met

end Keeps

end Run

namespace Program.Confined

variable {admits : {β : Type} → Request ν σ β → Prop} {I : World Q ν σ → Prop} {turns : Nat} {α : Type}
  {program : Program ν σ α} {world moment : World Q ν σ}

theorem reaches {rest : Program ν σ α} (confined : program.Confined turns admits world) (keeps : Run.Keeps admits I)
    (kept : I world) (reaches : Run.Reaches turns (Run.switch turns) program world rest moment) : I moment :=
  keeps.reaches confined kept (keeps.guarded (keeps.loop turns)) reaches

theorem switches (confined : program.Confined turns admits world) (keeps : Run.Keeps admits I) (kept : I world)
    (switches : Run.Switches turns (Run.switch turns) program world moment) : I moment :=
  keeps.switches confined kept (keeps.guarded (keeps.loop turns)) switches

/-- What everything admitted keeps holds at each moment of the run. -/
theorem meets (confined : program.Confined turns admits world) (keeps : Run.Keeps admits I) (kept : I world)
    (met : program.Meets turns world moment) : I moment := by
  obtain ⟨rest, reaches⟩ | ⟨begun, switches, met⟩ := Run.meets_iff.mp met
  · exact confined.reaches keeps kept reaches
  · have kept := keeps.beginSwitch (confined.switches keeps kept switches)
    exact keeps.loopMeets turns _ _ (confined.2 begun switches met.1) kept met.2

end Program.Confined

theorem Run.Reaches.asks {turns : Nat} {switch : Run.Switch Q ν σ} {admits : {β : Type} → Request ν σ β → Prop} {α : Type}
    {program rest : Program ν σ α} {world mid : World Q ν σ} (reaches : Run.Reaches turns switch program world rest mid)
    (asks : program.Asks admits) : rest.Asks admits := by
  induction reaches with
  | here => exact asks
  | request _ _ ih => exact ih (asks.2 _)
  | call _ _ ih => exact ih (asks.2 _)

/-! A program that asks for nothing else anywhere, over a hub whose callbacks do not either, cannot but be confined. -/

section

open LawfulQueue (armed)

variable [LawfulQueue Q]

/-- The callbacks that are armed ask for nothing else. -/
structure Tame (admits : {β : Type} → Request ν σ β → Prop) (world : World Q ν σ) : Prop where
  recorded : world.Recorded
  callbacks : ∀ held ∈ armed world.hub.queue, ∀ label callback, held.2 = .call label callback →
    Program.Asks admits callback

/-- No other callback was armed. -/
abbrev StaysTame (admits : {β : Type} → Request ν σ β → Prop) : Run.Passage Q ν σ := fun _ world after =>
  Tame admits world → Tame admits after

namespace Tame

variable {admits : {β : Type} → Request ν σ β → Prop} {world after : World Q ν σ}

theorem keep (tame : Tame admits world) (steps : World.Steps world after)
    (known : ∀ held ∈ armed after.hub.queue, held ∈ armed world.hub.queue ∨
      ∀ label callback, held.2 = .call label callback → Program.Asks admits callback) : Tame admits after := by
  refine ⟨tame.recorded.steps steps, fun held member label callback calls => ?_⟩
  obtain before | asks := known held member
  · exact tame.callbacks held before label callback calls
  · exact asks label callback calls

theorem past (tame : Tame admits world) (steps : World.Steps world after) (queue : after.hub.queue = world.hub.queue) :
    Tame admits after :=
  tame.keep steps fun _ member => .inl (queue ▸ member)

theorem schedule (tame : Tame admits world) (delay : Nat) {action : Action ν σ}
    (asks : ∀ label callback, action = .call label callback → Program.Asks admits callback) :
    Tame admits (world.schedule delay action).2 := by
  refine tame.keep (.single (.schedule world delay action)) fun held member => ?_
  refine (World.mem_armed_schedule tame.recorded.sound delay action held member).imp_right ?_
  rintro ⟨-, rfl⟩
  exact asks

theorem carries : Run.Carries (StaysTame admits : Run.Passage Q ν σ) := by
  refine Run.carries_of_timers (fun _ => id) (fun first second tame => second (first tame)) ?_ ?_ ?_
  · intro world delay signal tame
    exact tame.schedule delay fun label callback calls => by cases signal <;> cases calls
  · intro world timer tame
    refine tame.keep (.single (.cancel world timer)) fun held member => .inl ?_
    exact List.mem_of_mem_filter ((World.armed_cancel tame.recorded.sound timer).mem_iff.mp member)
  · exact fun world timers made tame => ⟨tame.recorded.keep rfl rfl (Nat.le_refl _) rfl rfl rfl, tame.callbacks⟩

theorem signs : Run.Signs (StaysTame admits : Run.Passage Q ν σ) :=
  ⟨fun _ _ tame => tame.past (.single (.aside rfl rfl rfl rfl rfl rfl)) rfl,
    fun _ _ tame => tame.past (.single (.aside rfl rfl rfl rfl rfl rfl)) rfl,
    fun _ _ tame => tame.past (.single (.aside rfl rfl rfl rfl rfl rfl)) rfl,
    fun _ _ tame => tame.past (.single (.aside rfl rfl rfl rfl rfl rfl)) rfl⟩

theorem beginSwitch (tame : Tame admits world) : Tame admits world.beginSwitch := by
  have steps := world.beginSwitch_steps
  obtain ⟨front, same⟩ := world.beginSwitch_eq
  rw [same] at steps ⊢
  exact tame.past steps rfl

theorem aside {turns : Nat} {switch : Run.Switch Q ν σ} {β : Type} {request : Request ν σ β}
    (other : request.ofTimers = false) (tame : Tame admits world) {reply : β}
    (answered : Run.answer turns switch request world = some (reply, after)) : Tame admits after := by
  have onto := (Run.timers_answer other tame.recorded.sound answered).1
  exact tame.keep (Run.steps_answer other answered) fun held member => .inl (onto.mem_iff.mp member)

theorem fire (tame : Tame admits world) {rest : World Q ν σ} {alarm : Alarm} {action : Action ν σ}
    (found : world.takeNext = (some (alarm, action), rest)) : Tame admits (rest.arrive alarm) ∧
      ∀ label callback, action = .call label callback → Program.Asks admits callback := by
  obtain ⟨-, onto, -⟩ := World.takeNext_some tame.recorded.sound found
  have steps : World.Steps world (rest.arrive alarm) := .single (.fire found)
  refine ⟨tame.keep steps fun held member => .inl (onto.mem_iff.mpr (List.mem_cons_of_mem _ member)), ?_⟩
  exact tame.callbacks _ (onto.mem_iff.mpr (List.mem_cons_self ..))

section

variable {turns : Nat} {switch : Run.Switch Q ν σ}
  (switches : Run.Along (StaysTame admits) (fun _ => []) switch)

include switches

theorem answers {β : Type} (request : Request ν σ β) :
    Run.Along (StaysTame admits) (fun _ => []) (Run.answer turns switch request) := by
  have along : Run.Along (StaysTame admits) (Run.callsIn turns switch (fun _ => []) request)
      (Run.answer turns switch request) :=
    carries.answer switches turns (carries.wait switches signs turns) (carries.get switches signs turns) request
      fun other _ _ _ answered tame => tame.aside other answered
  exact along

theorem program {α : Type} {program : Program ν σ α} (asks : program.Asks admits) {value : α} (tame : Tame admits world)
    (ran : Run.program turns switch program world = some (value, after)) : Tame admits after := by
  have along : Run.Along (StaysTame admits) (Run.programCalls turns switch (fun _ => []) program)
      (Run.program turns switch program) :=
    carries.program turns (fun request _ => answers switches request)
      (fun _ delay _ _ asks tame => tame.schedule delay fun _ _ same => by cases same; exact asks) program asks
  exact along world value after ran tame

/-- Asking for nothing else, the program is confined. -/
theorem confined {calm : World Q ν σ → Prop} (isCalm : ∀ begun, Tame admits begun → calm begun) {α : Type}
    {program : Program ν σ α} (asks : program.Asks admits) (tame : Tame admits world) :
    Run.Confined turns switch calm admits program world := by
  refine ⟨fun asked next before reaches => (reaches.asks asks).1, fun begun begins => isCalm begun ?_⟩
  have met : Run.Meets turns switch Eq program world begun := Run.meets_iff.mpr (.inr ⟨begun, begins, rfl⟩)
  have within (begun moment : World Q ν σ) (same : begun = moment) : Tame admits begun → Tame admits moment := same ▸ id
  exact carries.meets (fun request _ => answers switches request) (carries.meetsIn signs switches within)
    (fun _ delay _ _ asks tame => tame.schedule delay fun _ _ same => by cases same; exact asks) asks met tame

end

theorem turn {turns : Nat}
    (loops : Run.Along (StaysTame admits : Run.Passage Q ν σ) (fun _ => []) (Run.guarded (Run.loop turns)))
    (tame : Tame admits world) {taken : Run.Turn Q ν σ} (ran : Run.turn turns world = some taken) :
    Tame admits taken.world := by
  unfold Run.turn at ran
  split at ran
  · cases ran; exact tame.past (.single (.aside rfl rfl rfl rfl rfl rfl)) rfl
  split at ran
  next found =>
    cases ran
    obtain ⟨-, -, empty⟩ := World.takeNext_none tame.recorded.sound found
    exact tame.keep (.single (.runOut found)) fun held member => absurd (empty ▸ member) List.not_mem_nil
  next alarm action rest found =>
    obtain ⟨fired, asks⟩ := tame.fire found
    cases action with
    | wake => cases ran; exact fired.past (.single (.aside rfl rfl rfl rfl rfl rfl)) rfl
    | raise error => cases ran; exact fired
    | call label callback =>
      obtain ⟨⟨outcome, after⟩, called, rfl⟩ := Option.map_eq_some_iff.mp ran
      have begun : Tame admits ((rest.arrive alarm).setInCallback true) :=
        fired.past (.single (.aside rfl rfl rfl rfl rfl rfl)) rfl
      have ended := program loops (asks label callback rfl) begun called
      have left : Tame admits (after.setInCallback false) := ended.past (.single (.aside rfl rfl rfl rfl rfl rfl)) rfl
      rcases outcome with (error | panic) | _
      · exact left.past (World.reportFailure_steps _ label error) rfl
      · exact left
      · exact left

/-- The loop runs confined callbacks only, and arms no others. -/
theorem loop (turns : Nat) (world : World Q ν σ) (tame : Tame admits world) : Run.loopCalm admits turns world ∧
    ∀ answer after, Run.loop turns world = some (answer, after) → Tame admits after := by
  induction turns generalizing world with
  | zero => exact ⟨trivial, fun _ _ ran => by cases ran⟩
  | succ turns ih =>
    have loops : Run.Along (StaysTame admits : Run.Passage Q ν σ) (fun _ => []) (Run.guarded (Run.loop turns)) := by
      intro world answer after ran tame
      simp only [Run.guarded] at ran
      split at ran
      · cases ran; exact tame.beginSwitch
      · exact (ih _ tame.beginSwitch).2 _ _ ran
    refine ⟨⟨fun _ alarm label callback rest found => ?_, fun next taken => (ih next (tame.turn loops taken)).1⟩, ?_⟩
    · obtain ⟨fired, asks⟩ := tame.fire found
      have begun : Tame admits ((rest.arrive alarm).setInCallback true) :=
        fired.past (.single (.aside rfl rfl rfl rfl rfl rfl)) rfl
      have isCalm (begun : World Q ν σ) (tame : Tame admits begun) : Run.guardedCalm (Run.loopCalm admits turns) begun :=
        fun _ => (ih _ tame.beginSwitch).1
      exact confined loops isCalm (asks label callback rfl) begun
    · intro answer after ran
      rw [Run.loop_succ] at ran
      split at ran
      · cases ran
      next taken => cases ran; exact tame.turn loops taken
      next next taken => exact (ih next (tame.turn loops taken)).2 answer after ran

end Tame

theorem Program.Asks.confined {admits : {β : Type} → Request ν σ β → Prop} {α : Type} {program : Program ν σ α}
    (asks : program.Asks admits) {world : World Q ν σ} (tame : Tame admits world) (turns : Nat) :
    program.Confined turns admits world := by
  have loops : Run.Along (StaysTame admits : Run.Passage Q ν σ) (fun _ => []) (Run.switch turns) := by
    intro world answer after ran tame
    simp only [Run.switch, Run.guarded] at ran
    split at ran
    · cases ran; exact tame.beginSwitch
    · exact (Tame.loop turns _ tame.beginSwitch).2 _ _ ran
  have isCalm (begun : World Q ν σ) (tame : Tame admits begun) : Run.guardedCalm (Run.loopCalm admits turns) begun :=
    fun _ => (Tame.loop turns _ tame.beginSwitch).1
  exact Tame.confined loops isCalm asks tame

end

end Testbench
