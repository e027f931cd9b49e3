import Testbench.Proofs.RunCalls
import Testbench.Proofs.RunMoments

/-! What holds between the beginning and the end of a run because it holds of the small things in it. Parts are put
together, a callback is run without any switch, and a turn is followed by the next; what is left to show is what the
requests do that neither switch nor are about timers. -/

namespace Testbench

variable {ν σ : Type} {Q : Type 1} [TimerQueue (Action ν σ) Q]

/-- It switches or is about timers. -/
def Request.ofTimers {α : Type} : Request ν σ α → Bool
  | .switch | .sleep _ | .wait .. | .get .. | .hub (.schedule ..) | .hub (.cancel _) | .newTimeout _ | .startTimeout _ |
    .cancelTimeout _ => true
  | _ => false

/-- It waits for an event or a result. -/
def Request.waits {α : Type} : Request ν σ α → Bool
  | .wait .. | .get .. => true
  | _ => false

namespace Program

/-- The program and the callbacks it arms ask for nothing but this. -/
def Asks (admits : {β : Type} → Request ν σ β → Prop) {α : Type} : Program ν σ α → Prop
  | .pure _ => True
  | .request asked next => admits asked ∧ ∀ reply, (next reply).Asks admits
  | .call _ _ callback next => Asks admits callback ∧ ∀ reply, (next reply).Asks admits

theorem asks_anything {α : Type} (program : Program ν σ α) : program.Asks fun _ => True := by
  induction program with
  | pure value => trivial
  | request asked next ih => exact ⟨trivial, ih⟩
  | call delay label callback next callbackAsks ih => exact ⟨callbackAsks, ih⟩

theorem Asks.bind {admits : {β : Type} → Request ν σ β → Prop} {α β : Type} {program : Program ν σ α}
    {next : α → Program ν σ β} (asks : program.Asks admits) (rest : ∀ value, (next value).Asks admits) :
    (program.bind next).Asks admits := by
  induction program with
  | pure value => exact rest value
  | request asked following ih => exact ⟨asks.1, fun reply => ih reply (asks.2 reply) rest⟩
  | call delay label callback following _ ih => exact ⟨asks.1, fun reply => ih reply (asks.2 reply) rest⟩

end Program

namespace Run

/-- What may hold between two worlds when these callbacks are run between them. -/
abbrev Passage (Q : Type 1) (ν σ : Type) := List Call → World Q ν σ → World Q ν σ → Prop

/-- The passage holds of the run with the callbacks. -/
def Along {α : Type} (R : Passage Q ν σ) (calls : Calling Q ν σ) (run : Run Q ν σ α) : Prop :=
  ∀ world value after, run world = some (value, after) → R (calls world) world after

/-- Parts are put together, and timers that run no callback do not matter. -/
structure Carries (R : Passage Q ν σ) : Prop where
  refl (world : World Q ν σ) : R [] world world
  trans {world mid after : World Q ν σ} {calls later : List Call} (first : R calls world mid)
    (second : R later mid after) : R (calls ++ later) world after
  schedule (world : World Q ν σ) (delay : Nat) (signal : Signal) : R [] world (world.schedule delay signal.action).2
  cancel (world : World Q ν σ) (timer : Nat) : R [] world (world.cancel timer).2
  newTimeout (world : World Q ν σ) (after : Option Nat) : R [] world (world.newTimeout after).2
  startTimeout (world : World Q ν σ) (timeout : Timeout) : R [] world (world.startTimeout timeout).2
  cancelTimeout (world : World Q ν σ) (timeout : Timeout) : R [] world (world.cancelTimeout timeout).2

/-- It does not matter either who waits. -/
structure Signs (R : Passage Q ν σ) : Prop where
  addEventWaiter (world : World Q ν σ) (id : EventId) : R [] world (world.addEventWaiter id)
  removeEventWaiter (world : World Q ν σ) (id : EventId) : R [] world (world.removeEventWaiter id)
  addResultWaiter (world : World Q ν σ) (id : ResultId) : R [] world (world.addResultWaiter id)
  removeResultWaiter (world : World Q ν σ) (id : ResultId) : R [] world (world.removeResultWaiter id)

section

variable {R : Passage Q ν σ} {switch : Switch Q ν σ} {calls : Calling Q ν σ}

omit [TimerQueue (Action ν σ) Q] in
theorem along_total {α : Type} {run : World Q ν σ → α × World Q ν σ} (passes : ∀ world, R [] world (run world).2) :
    Along R (fun _ => []) fun world => some (run world) := by
  intro world value after ran
  have passed := passes world
  rwa [Option.some.inj ran] at passed

namespace Carries

variable (carries : Carries R)

include carries

theorem before {world mid after : World Q ν σ} {later : List Call} (first : R [] world mid)
    (second : R later mid after) : R later world after := carries.trans first second

theorem behind {world mid after : World Q ν σ} {calls : List Call} (first : R calls world mid)
    (second : R [] mid after) : R calls world after := by
  have passed := carries.trans first second
  rwa [List.append_nil] at passed

theorem startLimit (world : World Q ν σ) (limit : WaitLimit) : R [] world (world.startLimit limit).2 := by
  cases limit with
  | never => exact carries.refl world
  | after duration =>
    exact carries.before (carries.newTimeout world (some duration))
      (carries.startTimeout _ (world.newTimeout (some duration)).1)
  | under timeout =>
    simp only [World.startLimit]
    split
    · exact carries.refl world
    · exact carries.startTimeout world timeout

theorem endLimit (world : World Q ν σ) (timeout : Option Timeout) : R [] world (world.endLimit timeout) := by
  cases timeout with
  | none => exact carries.refl world
  | some timeout => exact carries.cancelTimeout world timeout

variable (switches : Along R calls switch)

include switches

theorem untilSet (id : EventId) (turns : Nat) :
    Along R (untilCalls switch calls (fun world => (world.event id).isSet) turns) (Run.untilSet switch id turns) := by
  induction turns with
  | zero => intro world value after ran; cases ran
  | succ turns ih =>
    intro world value after ran
    simp only [Run.untilSet] at ran
    simp only [untilCalls]
    split at ran
    · cases ran
    next switched =>
      cases ran
      rw [switched, List.append_nil]
      exact switches _ _ _ switched
    next switched =>
      have first := switches _ _ _ switched
      simp only [switched]
      split at ran
      next done => cases ran; simpa only [done, if_true, List.append_nil] using first
      next undone =>
        simp only [undone, Bool.false_eq_true, if_false]
        exact carries.trans first (ih _ _ _ ran)

theorem untilReady (id : ResultId) (turns : Nat) :
    Along R (untilCalls switch calls (fun world => (world.result id).isReady) turns)
      (Run.untilReady switch id turns) := by
  induction turns with
  | zero => intro world value after ran; cases ran
  | succ turns ih =>
    intro world value after ran
    simp only [Run.untilReady] at ran
    simp only [untilCalls, AsyncResult.isReady]
    split at ran
    · cases ran
    next switched =>
      cases ran
      rw [switched, List.append_nil]
      exact switches _ _ _ switched
    next switched =>
      have first := switches _ _ _ switched
      simp only [switched]
      split at ran
      next done => cases ran; simpa only [done, Option.isSome_some, if_true, List.append_nil] using first
      next undone =>
        simp only [undone, Option.isSome_none, Bool.false_eq_true, if_false]
        exact carries.trans first (ih _ _ _ ran)

theorem sleep (turns delay : Nat) : Along R (callsIn turns switch calls (.sleep delay)) (Run.sleep switch delay) := by
  intro world value after ran
  have scheduled : R [] world (world.schedule delay .wake).2 := carries.schedule world delay .wake
  unfold Run.sleep at ran
  simp only [callsIn]
  split at ran
  next answered => cases ran; simpa only [answered] using scheduled
  next answered =>
    simp only [answered] at scheduled ⊢
    split at ran
    · cases ran
    next switched => cases ran; exact carries.before scheduled (switches _ _ _ switched)
    next switched =>
      cases ran
      exact carries.behind (carries.before scheduled (switches _ _ _ switched)) (carries.cancel _ _)

theorem wait (signs : Signs R) (turns : Nat) (id : EventId) (limit : WaitLimit) :
    Along R (callsIn turns switch calls (.wait id limit)) (Run.wait turns switch id limit) := by
  intro world value after ran
  have started := carries.startLimit world limit
  unfold Run.wait at ran
  simp only [callsIn]
  split at ran
  next isSet => cases ran; simpa only [isSet, if_true] using carries.refl world
  next unset =>
    simp only [unset, Bool.false_eq_true, if_false]
    split at ran
    next answered => cases ran; simpa only [answered] using started
    next answered =>
      simp only [answered] at started ⊢
      have waits := carries.untilSet switches id turns
      have begun := carries.before started (signs.addEventWaiter _ id)
      split at ran
      · cases ran
      next switched =>
        cases ran
        exact carries.behind (carries.before begun (waits _ _ _ switched)) (carries.endLimit _ _)
      next switched =>
        have signedOff := carries.behind (carries.before begun (waits _ _ _ switched)) (signs.removeEventWaiter _ id)
        split at ran <;> cases ran <;> exact carries.behind signedOff (carries.endLimit _ _)
      next switched =>
        cases ran
        have signedOff := carries.behind (carries.before begun (waits _ _ _ switched)) (signs.removeEventWaiter _ id)
        exact carries.behind signedOff (carries.endLimit _ _)

theorem get (signs : Signs R) (turns : Nat) (id : ResultId) (limit : WaitLimit) :
    Along R (callsIn turns switch calls (.get id limit)) (Run.get turns switch id limit) := by
  intro world value after ran
  have started := carries.startLimit world limit
  unfold Run.get at ran
  simp only [callsIn, AsyncResult.isReady]
  split at ran
  next ready => cases ran; simpa only [ready, Option.isSome_some, if_true] using carries.refl world
  next unready =>
    simp only [unready, Option.isSome_none, Bool.false_eq_true, if_false]
    split at ran
    next answered => cases ran; simpa only [answered] using started
    next answered =>
      simp only [answered] at started ⊢
      have waits := carries.untilReady switches id turns
      have begun := carries.before started (signs.addResultWaiter _ id)
      split at ran
      · cases ran
      next switched =>
        cases ran
        exact carries.behind (carries.before begun (waits _ _ _ switched)) (carries.endLimit _ _)
      next switched =>
        cases ran
        have signedOff := carries.behind (carries.before begun (waits _ _ _ switched)) (signs.removeResultWaiter _ id)
        exact carries.behind signedOff (carries.endLimit _ _)

theorem answerAside {α : Type} (turns : Nat) {request : Request ν σ α} (plain : request.waits = false)
    (others : request.ofTimers = false → ∀ world value after,
      Run.answer turns switch request world = some (value, after) → R [] world after) :
    Along R (callsIn turns switch calls request) (Run.answer turns switch request) := by
  cases request with
  | wait | get => cases plain
  | switch => exact switches
  | sleep delay => exact carries.sleep switches turns delay
  | newTimeout after => exact along_total fun world => carries.newTimeout world after
  | startTimeout timeout => exact along_total fun world => carries.startTimeout world timeout
  | cancelTimeout timeout => exact along_total fun world => carries.cancelTimeout world timeout
  | hub request =>
    cases request with
    | schedule delay signal => exact along_total fun world => carries.schedule world delay signal
    | cancel timer => exact along_total fun world => carries.cancel world timer
    | _ => exact others rfl
  | _ => exact others rfl

theorem answer {α : Type} (turns : Nat)
    (waits : ∀ id limit, Along R (callsIn turns switch calls (.wait id limit)) (Run.wait turns switch id limit))
    (gets : ∀ id limit, Along R (callsIn turns switch calls (.get id limit)) (Run.get turns switch id limit))
    (request : Request ν σ α)
    (others : request.ofTimers = false → ∀ world value after,
      Run.answer turns switch request world = some (value, after) → R [] world after) :
    Along R (callsIn turns switch calls request) (Run.answer turns switch request) := by
  cases request with
  | wait id limit => exact waits id limit
  | get id limit => exact gets id limit
  | _ => exact carries.answerAside switches turns rfl others

omit switches in
theorem program {α : Type} {admits : {β : Type} → Request ν σ β → Prop} (turns : Nat)
    (answers : ∀ {β : Type} (request : Request ν σ β), admits request →
      Along R (callsIn turns switch calls request) (Run.answer turns switch request))
    (arms : ∀ world delay label (callback : Callback ν σ), Program.Asks admits callback →
      R [] world (world.schedule delay (.call label callback)).2)
    (program : Program ν σ α) (asks : program.Asks admits) :
    Along R (programCalls turns switch calls program) (Run.program turns switch program) := by
  induction program with
  | pure value => intro world value after ran; cases ran; exact carries.refl world
  | request asked next ih =>
    intro world value after ran
    simp only [Run.program] at ran
    simp only [programCalls]
    split at ran
    · cases ran
    next reply later answered =>
      simp only [answered]
      exact carries.trans (answers asked asks.1 _ _ _ answered) (ih reply (asks.2 reply) _ _ _ ran)
  | call delay label callback next _ ih =>
    intro world value after ran
    exact carries.before (arms world delay label callback asks.1) (ih _ (asks.2 _) _ _ _ ran)

omit switches in
theorem guarded {loop : Switch Q ν σ} {calls : Calling Q ν σ}
    (begins : ∀ world : World Q ν σ, R [] world world.beginSwitch) (loops : Along R calls loop) :
    Along R (guardedCalls calls) (Run.guarded loop) := by
  intro world value after ran
  simp only [Run.guarded] at ran
  simp only [guardedCalls]
  split at ran
  next refused => cases ran; simpa only [refused, if_true] using begins world
  next admitted =>
    simp only [admitted, Bool.false_eq_true, if_false]
    exact carries.before (begins world) (loops _ _ _ ran)

omit switches in
theorem loop
    (turnPasses : ∀ turns, Along R (loopCalls turns) (Run.loop turns) → ∀ world taken, turn turns world = some taken →
      R (turnCalls turns world) world taken.world) (turns : Nat) : Along R (loopCalls turns) (Run.loop turns) := by
  induction turns with
  | zero => intro world value after ran; cases ran
  | succ turns ih =>
    intro world value after ran
    rw [loop_succ] at ran
    simp only [loopCalls]
    split at ran
    · cases ran
    next taken =>
      cases ran
      rw [taken, List.append_nil]
      exact turnPasses turns ih _ _ taken
    next taken =>
      simp only [taken]
      exact carries.trans (turnPasses turns ih _ _ taken) (ih _ _ _ ran)

end Carries

end

/-- Timeouts are timers with a place in a table. -/
theorem carries_of_timers {R : Passage Q ν σ} (refl : ∀ world, R [] world world)
    (trans : ∀ {world mid after calls later}, R calls world mid → R later mid after → R (calls ++ later) world after)
    (schedule : ∀ world delay (signal : Signal), R [] world (world.schedule delay signal.action).2)
    (cancel : ∀ world timer, R [] world (world.cancel timer).2)
    (table : ∀ (world : World Q ν σ) timers made, R [] world { world with timers := timers, timeoutsMade := made }) :
    Carries R := by
  have cancelTimeout (world : World Q ν σ) (timeout : Timeout) : R [] world (world.cancelTimeout timeout).2 := by
    unfold World.cancelTimeout
    split
    · exact refl world
    · exact trans (table world (world.timers.erase timeout.id) world.timeoutsMade) (cancel _ _)
  have startTimeout (world : World Q ν σ) (timeout : Timeout) : R [] world (world.startTimeout timeout).2 := by
    have stopped := cancelTimeout world timeout
    cases delay : timeout.after with
    | none => simpa only [World.startTimeout, delay] using stopped
    | some after =>
      have scheduled := trans stopped (schedule (world.cancelTimeout timeout).2 after (.raise timeout.error))
      simp only [Signal.action] at scheduled
      simp only [World.startTimeout, delay]
      split
      next answered => rwa [answered] at scheduled
      next timer begun answered =>
        rw [answered] at scheduled
        exact trans scheduled (table begun (begun.timers.set timeout.id timer) begun.timeoutsMade)
  exact ⟨refl, trans, schedule, cancel, fun world _ => table world world.timers (world.timeoutsMade + 1), startTimeout,
    cancelTimeout⟩

/-! A callback stays a callback until it ends, and every switch is refused to it. -/

section

variable {world : World Q ν σ}

omit [TimerQueue (Action ν σ) Q] in
theorem inCallback_beginSwitch (world : World Q ν σ) : world.beginSwitch.hub.inCallback = world.hub.inCallback := by
  unfold World.beginSwitch
  split <;> rfl

omit [TimerQueue (Action ν σ) Q] in
theorem guarded_refuses (inside : world.hub.inCallback = true) (loop : Switch Q ν σ) :
    guarded loop world = some (.error (.failed .blockingInCallback), world.beginSwitch) := by
  simp only [guarded, inCallback_beginSwitch, inside, if_true]

theorem inCallback_schedule (world : World Q ν σ) (delay : Nat) (action : Action ν σ) :
    (world.schedule delay action).2.hub.inCallback = world.hub.inCallback := by
  unfold World.schedule
  dsimp only
  split <;> rfl

/-- A callback is run, or none is, before and after. -/
def SameCallback : Passage Q ν σ := fun _ world after => after.hub.inCallback = world.hub.inCallback

theorem carries_sameCallback : Carries (SameCallback : Passage Q ν σ) := by
  refine carries_of_timers (fun _ => rfl) (fun first second => second.trans first) ?_ ?_ (fun _ _ _ => rfl)
  · exact fun world delay signal => inCallback_schedule world delay signal.action
  · intro world timer
    unfold World.cancel SameCallback
    split <;> rfl

omit [TimerQueue (Action ν σ) Q] in
theorem signs_sameCallback : Signs (SameCallback : Passage Q ν σ) :=
  ⟨fun _ _ => rfl, fun _ _ => rfl, fun _ _ => rfl, fun _ _ => rfl⟩

theorem inCallback_answer {α : Type} {turns : Nat} {switch : Switch Q ν σ} {request : Request ν σ α}
    (other : request.ofTimers = false) {value : α} {after : World Q ν σ}
    (answered : answer turns switch request world = some (value, after)) :
    after.hub.inCallback = world.hub.inCallback := by
  cases request with
  | switch | sleep | wait | get | newTimeout | startTimeout | cancelTimeout => cases other
  | hub request =>
    cases request with
    | schedule | cancel => cases other
    | _ => cases answered; rfl
  | setEvent event =>
    cases answered
    unfold World.setEvent
    dsimp only
    split <;> rfl
  | complete result value =>
    cases answered
    unfold World.complete
    dsimp only
    split <;> rfl
  | _ => cases answered; rfl

/-- Of a callback: it goes on, and the passage holds without any callback in it. -/
def Inside (R : Passage Q ν σ) : Passage Q ν σ := fun _ world after =>
  world.hub.inCallback = true → after.hub.inCallback = true ∧ R [] world after

end

section

variable {R : Passage Q ν σ}

omit [TimerQueue (Action ν σ) Q] in
theorem inside_refused (begins : ∀ world : World Q ν σ, R [] world world.beginSwitch) (loop : Switch Q ν σ) :
    Along (Inside R) (fun _ => []) (guarded loop) := by
  intro world value after switched inside
  cases (guarded_refuses inside loop).symm.trans switched
  exact ⟨(inCallback_beginSwitch world).trans inside, begins world⟩

omit [TimerQueue (Action ν σ) Q] in
theorem Signs.inside (signs : Signs R) : Signs (Inside R) where
  addEventWaiter world id inside := ⟨inside, signs.addEventWaiter world id⟩
  removeEventWaiter world id inside := ⟨inside, signs.removeEventWaiter world id⟩
  addResultWaiter world id inside := ⟨inside, signs.addResultWaiter world id⟩
  removeResultWaiter world id inside := ⟨inside, signs.removeResultWaiter world id⟩

theorem Carries.inside (carries : Carries R) : Carries (Inside R) where
  refl world inside := ⟨inside, carries.refl world⟩
  trans first second inside := by
    obtain ⟨still, passed⟩ := first inside
    obtain ⟨last, later⟩ := second still
    exact ⟨last, carries.trans passed later⟩
  schedule world delay signal inside :=
    ⟨(carries_sameCallback.schedule world delay signal).trans inside, carries.schedule world delay signal⟩
  cancel world timer inside := ⟨(carries_sameCallback.cancel world timer).trans inside, carries.cancel world timer⟩
  newTimeout world after inside := ⟨inside, carries.newTimeout world after⟩
  startTimeout world timeout inside :=
    ⟨(carries_sameCallback.startTimeout world timeout).trans inside, carries.startTimeout world timeout⟩
  cancelTimeout world timeout inside :=
    ⟨(carries_sameCallback.cancelTimeout world timeout).trans inside, carries.cancelTimeout world timeout⟩

/-- The parts of a callback pass. Its waits are refused as soon as they have begun. -/
structure CarriesCallbacks (R : Passage Q ν σ) (admits : {β : Type} → Request ν σ β → Prop) : Prop where
  beginSwitch (world : World Q ν σ) : R [] world world.beginSwitch
  call (world : World Q ν σ) (delay : Nat) (label : String) {callback : Callback ν σ}
    (asks : Program.Asks admits callback) : R [] world (world.schedule delay (.call label callback)).2
  wait {turns : Nat} {loop : Switch Q ν σ} {id : EventId} {limit : WaitLimit} {world after : World Q ν σ}
    {reply : Except (Stop HubError) Waited} (inside : world.hub.inCallback = true)
    (waited : Run.wait turns (guarded loop) id limit world = some (reply, after)) : R [] world after
  get {turns : Nat} {loop : Switch Q ν σ} {id : ResultId} {limit : WaitLimit} {world after : World Q ν σ}
    {reply : Except (Stop HubError) ν} (inside : world.hub.inCallback = true)
    (got : Run.get turns (guarded loop) id limit world = some (reply, after)) : R [] world after
  answer {turns : Nat} {switch : Switch Q ν σ} {β : Type} {request : Request ν σ β} (admitted : admits request)
    (other : request.ofTimers = false) {world after : World Q ν σ} {reply : β}
    (answered : Run.answer turns switch request world = some (reply, after)) : R [] world after

/-- Where it does not matter who waits, nothing but the other requests is left to show. -/
theorem Carries.callbacks {admits : {β : Type} → Request ν σ β → Prop} (carries : Carries R) (signs : Signs R)
    (begins : ∀ world : World Q ν σ, R [] world world.beginSwitch)
    (call : ∀ (world : World Q ν σ) delay label (callback : Callback ν σ),
      R [] world (world.schedule delay (.call label callback)).2)
    (answers : ∀ {turns : Nat} {switch : Switch Q ν σ} {β : Type} {request : Request ν σ β}, request.ofTimers = false →
      ∀ {world after : World Q ν σ} {reply : β}, Run.answer turns switch request world = some (reply, after) →
        R [] world after) : CarriesCallbacks R admits where
  beginSwitch := begins
  call world delay label callback _ := call world delay label callback
  wait {turns loop id limit world after reply} inside waited :=
    (carries.inside.wait (inside_refused begins loop) signs.inside turns id limit world reply after waited inside).2
  get {turns loop id limit world after reply} inside got :=
    (carries.inside.get (inside_refused begins loop) signs.inside turns id limit world reply after got inside).2
  answer _ other _ _ _ answered := answers other answered

variable {admits : {β : Type} → Request ν σ β → Prop} (carries : Carries R) (callbacks : CarriesCallbacks R admits)
  {turns : Nat} {loop : Switch Q ν σ}

include carries callbacks

theorem Carries.answerInside {α : Type} {request : Request ν σ α} (admitted : admits request) :
    Along (Inside R) (callsIn turns (Run.guarded loop) (fun _ => []) request)
      (Run.answer turns (Run.guarded loop) request) := by
  have refused : Along (Inside SameCallback) (fun _ => []) (Run.guarded loop) :=
    inside_refused inCallback_beginSwitch loop
  have same : Carries (Inside SameCallback : Passage Q ν σ) := carries_sameCallback.inside
  have signs : Signs (Inside SameCallback : Passage Q ν σ) := signs_sameCallback.inside
  refine carries.inside.answer (inside_refused callbacks.beginSwitch loop) turns ?_ ?_ request ?_
  · exact fun id limit world reply after waited inside =>
      ⟨(same.wait refused signs turns id limit world reply after waited inside).1, callbacks.wait inside waited⟩
  · exact fun id limit world reply after got inside =>
      ⟨(same.get refused signs turns id limit world reply after got inside).1, callbacks.get inside got⟩
  · exact fun other world reply after answered inside =>
      ⟨(inCallback_answer other answered).trans inside, callbacks.answer admitted other answered⟩

/-- What passes through the parts of a callback passes through the callback. -/
theorem Carries.callback {called : Callback ν σ} (asks : Program.Asks admits called) {world after : World Q ν σ}
    {outcome : Except (Stop HubError) Unit} (inside : world.hub.inCallback = true)
    (ran : Run.program turns (Run.guarded loop) called world = some (outcome, after)) : R [] world after := by
  have passes : Along (Inside R) (programCalls turns (Run.guarded loop) (fun _ => []) called)
      (Run.program turns (Run.guarded loop) called) :=
    carries.inside.program turns (fun request admitted => carries.answerInside callbacks admitted)
      (fun world delay label callback asks inside =>
        ⟨(inCallback_schedule world delay _).trans inside, callbacks.call world delay label asks⟩) called asks
  exact (passes world outcome after ran inside).2

end

/-! What passes to the end of a run also passes to each of its moments. -/

section

variable {R : World Q ν σ → World Q ν σ → Prop} (carries : Carries fun _ => R) {turns : Nat} {switch : Switch Q ν σ}
  {during : Meeting Q ν σ} {world moment : World Q ν σ}

include carries

theorem Carries.join {mid after : World Q ν σ} (first : R world mid) (second : R mid after) : R world after :=
  @Carries.trans _ _ _ _ _ carries _ _ _ [] [] first second

theorem Carries.meetsUntil (switches : Along (fun _ => R) (fun _ => []) switch)
    (within : ∀ world moment, during world moment → R world moment) {done : World Q ν σ → Bool} {left : Nat}
    (met : MeetsUntil switch during done left world moment) : R world moment := by
  induction met with
  | within met => exact within _ _ met
  | again switched _ _ ih => exact carries.join (switches _ _ _ switched) ih

theorem Carries.meetsIn (signs : Signs fun _ => R) (switches : Along (fun _ => R) (fun _ => []) switch)
    (within : ∀ world moment, during world moment → R world moment) {α : Type} {request : Request ν σ α}
    (met : MeetsIn turns switch during request world moment) : R world moment := by
  cases met with
  | switch met => exact within _ _ met
  | @sleep delay _ _ _ _ scheduled met =>
    have first : R world (world.schedule delay .wake).2 := carries.schedule world delay .wake
    rw [scheduled] at first
    exact carries.join first (within _ _ met)
  | @wait id limit _ _ started _ _ start met =>
    have first := carries.startLimit world limit
    rw [start] at first
    exact carries.join (carries.join first (signs.addEventWaiter started id)) (carries.meetsUntil switches within met)
  | @get id limit _ _ started _ _ start met =>
    have first := carries.startLimit world limit
    rw [start] at first
    exact carries.join (carries.join first (signs.addResultWaiter started id)) (carries.meetsUntil switches within met)

theorem Carries.meets {admits : {β : Type} → Request ν σ β → Prop}
    (answers : ∀ {β : Type} (request : Request ν σ β), admits request →
      Along (fun _ => R) (fun _ => []) (Run.answer turns switch request))
    (insides : ∀ {β : Type} {request : Request ν σ β} {world moment : World Q ν σ},
      MeetsIn turns switch during request world moment → R world moment)
    (arms : ∀ world delay label (callback : Callback ν σ), Program.Asks admits callback →
      R world (world.schedule delay (.call label callback)).2)
    {α : Type} {program : Program ν σ α} (asks : program.Asks admits)
    (met : Meets turns switch during program world moment) : R world moment := by
  induction met with
  | here => exact carries.refl _
  | inside met => exact insides met
  | request answered _ ih => exact carries.join (answers _ asks.1 _ _ _ answered) (ih (asks.2 _))
  | @call delay label callback _ _ world armed _ scheduled _ ih =>
    have first := arms world delay label _ asks.1
    rw [scheduled] at first
    exact carries.join first (ih (asks.2 _))

theorem Carries.guardedMeets (begins : ∀ world : World Q ν σ, R world world.beginSwitch)
    (within : ∀ world moment, during world moment → R world moment) (met : guardedMeets during world moment) :
    R world moment :=
  carries.join (begins world) (within _ _ met.2)

omit switch during world moment in
theorem Carries.loopMeets (turnPasses : ∀ turns world taken, turn turns world = some taken → R world taken.world)
    (called : ∀ turns, (∀ world moment, Run.loopMeets turns world moment → R world moment) →
      ∀ world moment alarm label (callback : Callback ν σ) rest,
        world.takeNext = (some (alarm, .call label callback), rest) →
          Meets turns (Run.guarded (Run.loop turns)) (Run.guardedMeets (Run.loopMeets turns)) callback
            ((rest.arrive alarm).setInCallback true) moment → R world moment)
    (turns : Nat) (world moment : World Q ν σ) (met : Run.loopMeets turns world moment) : R world moment := by
  induction turns generalizing world moment with
  | zero => exact met.elim
  | succ turns ih =>
    obtain rfl | ⟨-, alarm, label, callback, rest, found, met⟩ | ⟨next, taken, met⟩ := met
    · exact carries.refl _
    · exact called turns ih world moment alarm label callback rest found met
    · exact carries.join (turnPasses turns world _ taken) (ih next moment met)

end

section

variable {turns : Nat} {loop : Switch Q ν σ} {during : Meeting Q ν σ} {world moment : World Q ν σ}

omit [TimerQueue (Action ν σ) Q] in
theorem not_guardedMeets (inside : world.hub.inCallback = true) : ¬ guardedMeets during world moment := fun met =>
  Bool.noConfusion (met.1.symm.trans ((inCallback_beginSwitch world).trans inside))

omit [TimerQueue (Action ν σ) Q] in
theorem not_meetsUntil (inside : world.hub.inCallback = true) {done : World Q ν σ → Bool} {left : Nat} :
    ¬ MeetsUntil (guarded loop) (guardedMeets during) done left world moment := by
  intro met
  cases met with
  | within met => exact not_guardedMeets inside met
  | again switched => cases (guarded_refuses inside loop).symm.trans switched

/-- A request of a callback is over at once. -/
theorem not_meetsIn (inside : world.hub.inCallback = true) {α : Type} {request : Request ν σ α} :
    ¬ MeetsIn turns (guarded loop) (guardedMeets during) request world moment := by
  intro met
  cases met with
  | switch met => exact not_guardedMeets inside met
  | @sleep delay _ _ armed _ scheduled met =>
    have still := inCallback_schedule world delay .wake
    rw [scheduled] at still
    exact not_guardedMeets (still.trans inside) met
  | @wait id limit _ _ started _ _ start met =>
    have still : SameCallback [] world (world.startLimit limit).2 := carries_sameCallback.startLimit world limit
    rw [start] at still
    have waiting : (started.addEventWaiter id).hub.inCallback = true := still.trans inside
    exact not_meetsUntil waiting met
  | @get id limit _ _ started _ _ start met =>
    have still : SameCallback [] world (world.startLimit limit).2 := carries_sameCallback.startLimit world limit
    rw [start] at still
    have waiting : (started.addResultWaiter id).hub.inCallback = true := still.trans inside
    exact not_meetsUntil waiting met

theorem Carries.callbackMeets {R : Passage Q ν σ} {admits : {β : Type} → Request ν σ β → Prop} (carries : Carries R)
    (callbacks : CarriesCallbacks R admits) {called : Callback ν σ} (asks : Program.Asks admits called)
    (inside : world.hub.inCallback = true)
    (met : Meets turns (Run.guarded loop) (Run.guardedMeets during) called world moment) : R [] world moment := by
  have along : Carries fun _ => Inside R [] := carries.inside
  have answers {β : Type} (request : Request ν σ β) (admitted : admits request) :
      Along (fun _ => Inside R []) (fun _ => []) (Run.answer turns (Run.guarded loop) request) :=
    carries.answerInside callbacks admitted
  have passes := along.meets answers (fun met inside => absurd met (not_meetsIn inside))
    (fun world delay label callback asks inside =>
      ⟨(inCallback_schedule world delay _).trans inside, callbacks.call world delay label asks⟩) asks met
  exact (passes inside).2

end

end Run

end Testbench
