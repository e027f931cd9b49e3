import Testbench.Proofs.FiringOrder
import Testbench.Proofs.RunPassages

/-! Who waits for what. A callback cannot wait, and the task waits for one thing at a time; a wait that ends, however it
does, signs off again. Only a panic that goes through a wait leaves it signed on, and whatever completes what was waited
for then wakes the hub although nobody waits. -/

namespace Testbench

variable {ν σ : Type} {Q : Type 1}

/-- What a task can wait for. -/
inductive Watched where
  | event (id : EventId)
  | result (id : ResultId)
deriving DecidableEq

namespace World

def waiters (world : World Q ν σ) : Watched → Nat
  | .event id => (world.event id).waiters
  | .result id => (world.result id).waiters

def Made (world : World Q ν σ) : Watched → Prop
  | .event id => id.index < world.eventsMade
  | .result id => id.index < world.resultsMade

/-- So many waits have signed on and not off. What is not made yet has no waiters when it is made. -/
def SignsOn (waits : List Watched) (world after : World Q ν σ) : Prop :=
  ∀ watched, after.waiters watched ≤ world.waiters watched + waits.count watched ∧
    (world.Made watched → after.Made watched ∧ after.waiters watched = world.waiters watched + waits.count watched)

/-- One count is another now. -/
structure Recounted (watched : Watched) (count : Nat) (world after : World Q ν σ) : Prop where
  own : after.waiters watched = count
  others : ∀ other, other ≠ watched → after.waiters other = world.waiters other
  made : ∀ other, world.Made other → after.Made other

section

variable {world mid after : World Q ν σ} {waits later : List Watched} {watched : Watched}

theorem recounted_setEventState (world : World Q ν σ) (id : EventId) (event : Event) :
    Recounted (.event id) event.waiters world (world.setEventState id event) := by
  have events (other : EventId) :
      (world.setEventState id event).event other = if other = id then event else world.event other := by
    unfold World.event setEventState
    rw [Registry.get?_set]
    split <;> rfl
  refine ⟨congrArg Event.waiters ((events id).trans (if_pos rfl)), fun other different => ?_, fun other made => ?_⟩
  · cases other with
    | event other =>
      exact congrArg Event.waiters ((events other).trans (if_neg fun same => different (congrArg _ same)))
    | result other => rfl
  · cases other <;> exact made

theorem recounted_setResultState (world : World Q ν σ) (id : ResultId) (result : AsyncResult ν) :
    Recounted (.result id) result.waiters world (world.setResultState id result) := by
  have results (other : ResultId) :
      (world.setResultState id result).result other = if other = id then result else world.result other := by
    unfold World.result setResultState
    rw [Registry.get?_set]
    split <;> rfl
  refine ⟨congrArg AsyncResult.waiters ((results id).trans (if_pos rfl)), fun other different => ?_,
    fun other made => ?_⟩
  · cases other with
    | event other => rfl
    | result other =>
      exact congrArg AsyncResult.waiters ((results other).trans (if_neg fun same => different (congrArg _ same)))
  · cases other <;> exact made

theorem recounted_addEventWaiter (world : World Q ν σ) (id : EventId) :
    Recounted (.event id) (world.waiters (.event id) + 1) world (world.addEventWaiter id) :=
  recounted_setEventState world id { world.event id with waiters := (world.event id).waiters + 1 }

theorem recounted_removeEventWaiter (world : World Q ν σ) (id : EventId) :
    Recounted (.event id) (world.waiters (.event id) - 1) world (world.removeEventWaiter id) :=
  recounted_setEventState world id { world.event id with waiters := (world.event id).waiters - 1 }

theorem recounted_addResultWaiter (world : World Q ν σ) (id : ResultId) :
    Recounted (.result id) (world.waiters (.result id) + 1) world (world.addResultWaiter id) :=
  recounted_setResultState world id { world.result id with waiters := (world.result id).waiters + 1 }

theorem recounted_removeResultWaiter (world : World Q ν σ) (id : ResultId) :
    Recounted (.result id) (world.waiters (.result id) - 1) world (world.removeResultWaiter id) :=
  recounted_setResultState world id { world.result id with waiters := (world.result id).waiters - 1 }

theorem recounted_newEvent (world : World Q ν σ) : Recounted (.event ⟨world.eventsMade⟩) 0 world world.newEvent.2 := by
  obtain ⟨own, others, made⟩ := recounted_setEventState world ⟨world.eventsMade⟩ {}
  refine ⟨own, others, fun other isMade => ?_⟩
  cases other with
  | event other => exact Nat.lt_succ_of_lt isMade
  | result other => exact isMade

theorem recounted_newResult (world : World Q ν σ) :
    Recounted (.result ⟨world.resultsMade⟩) 0 world world.newResult.2 := by
  obtain ⟨own, others, made⟩ := recounted_setResultState world ⟨world.resultsMade⟩ {}
  refine ⟨own, others, fun other isMade => ?_⟩
  cases other with
  | event other => exact isMade
  | result other => exact Nat.lt_succ_of_lt isMade

namespace SignsOn

theorem trans (first : SignsOn waits world mid) (second : SignsOn later mid after) :
    SignsOn (waits ++ later) world after := by
  intro watched
  obtain ⟨most, exactly⟩ := first watched
  obtain ⟨most', exactly'⟩ := second watched
  rw [List.count_append]
  refine ⟨by omega, fun made => ?_⟩
  obtain ⟨still, same⟩ := exactly made
  obtain ⟨last, same'⟩ := exactly' still
  exact ⟨last, by omega⟩

theorem aside (events : after.events = world.events) (eventsMade : after.eventsMade = world.eventsMade)
    (results : after.results = world.results) (resultsMade : after.resultsMade = world.resultsMade) :
    SignsOn [] world after := by
  intro watched
  have waiters : after.waiters watched = world.waiters watched := by
    cases watched <;> simp only [World.waiters, World.event, World.result, events, results]
  have made : after.Made watched ↔ world.Made watched := by
    cases watched <;> simp only [Made, eventsMade, resultsMade]
  rw [waiters, List.count_nil]
  exact ⟨Nat.le_refl _, fun isMade => ⟨made.mpr isMade, rfl⟩⟩

theorem same (recounted : Recounted watched (world.waiters watched) world after) : SignsOn [] world after := by
  intro other
  have waiters : after.waiters other = world.waiters other := by
    by_cases own : other = watched
    · rw [own, recounted.own]
    · exact recounted.others other own
  exact ⟨Nat.le_of_eq waiters, fun made => ⟨recounted.made other made, waiters⟩⟩

theorem one (recounted : Recounted watched (world.waiters watched + 1) world after) :
    SignsOn [watched] world after := by
  intro other
  have waiters : after.waiters other = world.waiters other + [watched].count other := by
    by_cases own : other = watched
    · rw [own, recounted.own, List.count_singleton_self]
    · rw [recounted.others other own, List.count_eq_zero.mpr (by simpa using own)]
      rfl
  exact ⟨Nat.le_of_eq waiters, fun made => ⟨recounted.made other made, waiters⟩⟩

theorem off (signed : SignsOn [watched] world mid) (recounted : Recounted watched (mid.waiters watched - 1) mid after) :
    SignsOn [] world after := by
  intro other
  obtain ⟨most, exactly⟩ := signed other
  have waiters : after.waiters other = mid.waiters other - [watched].count other := by
    by_cases own : other = watched
    · rw [own, recounted.own, List.count_singleton_self]
    · rw [recounted.others other own, List.count_eq_zero.mpr (by simpa using own)]
      rfl
  rw [waiters, List.count_nil]
  refine ⟨by omega, fun made => ?_⟩
  obtain ⟨still, same⟩ := exactly made
  exact ⟨recounted.made other still, by omega⟩

/-- A wait that was left in the middle. -/
theorem unwound {begun : World Q ν σ} (started : SignsOn [] world begun)
    (signedOn : Recounted watched (begun.waiters watched + 1) begun after) (switched : SignsOn [] after mid) :
    SignsOn [watched] world mid :=
  (started.trans (one signedOn)).trans switched

theorem fresh (unmade : ¬ world.Made watched) (recounted : Recounted watched 0 world after) :
    SignsOn [] world after := by
  intro other
  by_cases own : other = watched
  · subst own
    rw [recounted.own]
    exact ⟨Nat.zero_le _, fun made => absurd made unmade⟩
  · rw [recounted.others other own]
    exact ⟨Nat.le_refl _, fun made => ⟨recounted.made other made, rfl⟩⟩

theorem flag (world : World Q ν σ) (id : EventId) (isSet : Bool) :
    SignsOn [] world (world.setEventState id { world.event id with isSet }) := by
  have recounted := recounted_setEventState world id { world.event id with isSet }
  exact same recounted

theorem setEvent (world : World Q ν σ) (id : EventId) : SignsOn [] world (world.setEvent id) := by
  unfold World.setEvent
  dsimp only
  split
  · exact (flag world id true).trans (aside rfl rfl rfl rfl)
  · exact flag world id true

theorem complete (world : World Q ν σ) (id : ResultId) (value : Except HubError ν) :
    SignsOn [] world (world.complete id value) := by
  have recounted := recounted_setResultState world id { world.result id with value := some value }
  have stored : SignsOn [] world (world.setResultState id { world.result id with value := some value }) :=
    same recounted
  unfold World.complete
  dsimp only
  split
  · exact stored.trans (aside rfl rfl rfl rfl)
  · exact stored

theorem beginSwitch (world : World Q ν σ) : SignsOn [] world world.beginSwitch := by
  unfold World.beginSwitch
  split <;> exact aside rfl rfl rfl rfl

end SignsOn

end

end World

def Request.watched? {α : Type} : Request ν σ α → Option Watched
  | .wait id _ => some (.event id)
  | .get id _ => some (.result id)
  | _ => none

namespace Run

open World (SignsOn)

variable [TimerQueue (Action ν σ) Q]

/-- The wait that had begun when a panic ended the request. -/
def lostIn {α : Type} : Request ν σ α → World Q ν σ → α → List Watched
  | .wait id limit, world, .error (.panicked _) => if (world.startLimit limit).1.isOk then [.event id] else []
  | .get id limit, world, .error (.panicked _) => if (world.startLimit limit).1.isOk then [.result id] else []
  | _, _, _ => []

/-- Nobody has signed on. -/
abbrev Steady : Passage Q ν σ := fun _ => SignsOn []

theorem steady_schedule (world : World Q ν σ) (delay : Nat) (action : Action ν σ) :
    SignsOn [] world (world.schedule delay action).2 := by
  unfold World.schedule
  dsimp only
  split <;> exact .aside rfl rfl rfl rfl

theorem carries_steady : Carries (Steady : Passage Q ν σ) := by
  refine carries_of_timers (fun _ => .aside rfl rfl rfl rfl) (fun first second => first.trans second) ?_ ?_ ?_
  · exact fun world delay signal => steady_schedule world delay signal.action
  · intro world timer
    unfold World.cancel
    split <;> exact .aside rfl rfl rfl rfl
  · exact fun _ _ _ => .aside rfl rfl rfl rfl

section

variable {turns : Nat} {switch loop : Switch Q ν σ} {world after : World Q ν σ}

theorem steady_answer {α : Type} {request : Request ν σ α} (other : request.ofTimers = false) {reply : α}
    (answered : answer turns switch request world = some (reply, after)) : SignsOn [] world after := by
  cases request with
  | switch | sleep | wait | get | newTimeout | startTimeout | cancelTimeout => cases other
  | hub request =>
    cases request with
    | schedule | cancel => cases other
    | _ => cases answered; exact .aside rfl rfl rfl rfl
  | newEvent => cases answered; exact .fresh (Nat.lt_irrefl _) (World.recounted_newEvent world)
  | setEvent id => cases answered; exact .setEvent world id
  | clearEvent id => cases answered; exact .flag world id false
  | newResult => cases answered; exact .fresh (Nat.lt_irrefl _) (World.recounted_newResult world)
  | complete id value => cases answered; exact .complete world id value
  | _ => cases answered; exact .aside rfl rfl rfl rfl

/-- However it ends, a wait leaves no waiter unless a panic came through it. -/
theorem signsOn_wait {id : EventId} {limit : WaitLimit} {reply : Except (Stop HubError) Waited}
    (waits : ∀ begun reply mid, begun.hub.inCallback = world.hub.inCallback →
      untilSet switch id turns begun = some (reply, mid) → SignsOn [] begun mid)
    (waited : wait turns switch id limit world = some (reply, after)) :
    SignsOn (lostIn (.wait id limit) world reply) world after ∧ (lostIn (.wait id limit) world reply ≠ [] →
      ∃ begun panic mid, begun.hub.inCallback = world.hub.inCallback ∧
        untilSet switch id turns begun = some (.error (.panicked panic), mid)) := by
  have started := carries_steady.startLimit world limit
  have same : SameCallback [] world (world.startLimit limit).2 := carries_sameCallback.startLimit world limit
  unfold wait at waited
  split at waited
  · cases waited; exact ⟨.aside rfl rfl rfl rfl, fun lost => absurd rfl lost⟩
  split at waited
  next answered =>
    cases waited
    rw [answered] at started
    simp only [lostIn, answered, Except.isOk, Except.toBool]
    exact ⟨started, fun lost => absurd rfl lost⟩
  next timeout begun answered =>
    rw [answered] at started same
    have unwound {answer : Except (Stop HubError) Unit} {mid : World Q ν σ}
        (switched : untilSet switch id turns (begun.addEventWaiter id) = some (answer, mid)) :
        SignsOn [.event id] world mid :=
      started.unwound (begun.recounted_addEventWaiter id) (waits _ _ _ same switched)
    have off {answer : Except (Stop HubError) Unit} {mid : World Q ν σ}
        (switched : untilSet switch id turns (begun.addEventWaiter id) = some (answer, mid)) :
        SignsOn [] world ((mid.removeEventWaiter id).endLimit timeout) :=
      ((unwound switched).off (mid.recounted_removeEventWaiter id)).trans (carries_steady.endLimit _ timeout)
    split at waited
    · cases waited
    next panic mid switched =>
      cases waited
      simp only [lostIn, answered, Except.isOk, Except.toBool]
      have left := (unwound switched).trans (carries_steady.endLimit mid timeout)
      exact ⟨left, fun _ => ⟨begun.addEventWaiter id, panic, mid, same, switched⟩⟩
    next switched =>
      have left := off switched
      split at waited <;> cases waited <;> exact ⟨left, fun lost => absurd rfl lost⟩
    next switched => cases waited; exact ⟨off switched, fun lost => absurd rfl lost⟩

/-- The same of a result that is waited for. -/
theorem signsOn_get {id : ResultId} {limit : WaitLimit} {reply : Except (Stop HubError) ν}
    (waits : ∀ begun reply mid, begun.hub.inCallback = world.hub.inCallback →
      untilReady switch id turns begun = some (reply, mid) → SignsOn [] begun mid)
    (got : get turns switch id limit world = some (reply, after)) :
    SignsOn (lostIn (.get id limit) world reply) world after ∧ (lostIn (.get id limit) world reply ≠ [] →
      ∃ begun panic mid, begun.hub.inCallback = world.hub.inCallback ∧
        untilReady switch id turns begun = some (.error (.panicked panic), mid)) := by
  have started := carries_steady.startLimit world limit
  have same : SameCallback [] world (world.startLimit limit).2 := carries_sameCallback.startLimit world limit
  unfold get at got
  split at got
  next value ready =>
    cases got
    cases value <;> exact ⟨.aside rfl rfl rfl rfl, fun lost => absurd rfl lost⟩
  split at got
  next answered =>
    cases got
    rw [answered] at started
    simp only [lostIn, answered, Except.isOk, Except.toBool]
    exact ⟨started, fun lost => absurd rfl lost⟩
  next timeout begun answered =>
    rw [answered] at started same
    have unwound {answer : Except (Stop HubError) ν} {mid : World Q ν σ}
        (switched : untilReady switch id turns (begun.addResultWaiter id) = some (answer, mid)) :
        SignsOn [.result id] world mid :=
      started.unwound (begun.recounted_addResultWaiter id) (waits _ _ _ same switched)
    have off {answer : Except (Stop HubError) ν} {mid : World Q ν σ}
        (switched : untilReady switch id turns (begun.addResultWaiter id) = some (answer, mid)) :
        SignsOn [] world ((mid.removeResultWaiter id).endLimit timeout) :=
      ((unwound switched).off (mid.recounted_removeResultWaiter id)).trans (carries_steady.endLimit _ timeout)
    split at got
    · cases got
    next panic mid switched =>
      cases got
      simp only [lostIn, answered, Except.isOk, Except.toBool]
      have left := (unwound switched).trans (carries_steady.endLimit mid timeout)
      exact ⟨left, fun _ => ⟨begun.addResultWaiter id, panic, mid, same, switched⟩⟩
    next mid notPanicked switched =>
      cases got
      have left := off switched
      rcases reply with (error | panic) | value
      · exact ⟨left, fun lost => absurd rfl lost⟩
      · exact (notPanicked panic rfl).elim
      · exact ⟨left, fun lost => absurd rfl lost⟩

omit [TimerQueue (Action ν σ) Q] in
theorem untilSet_refuses (inside : world.hub.inCallback = true) {id : EventId} {reply : Except (Stop HubError) Unit}
    (switched : untilSet (guarded loop) id turns world = some (reply, after)) :
    reply = .error (.failed .blockingInCallback) := by
  cases turns with
  | zero => cases switched
  | succ turns =>
    simp only [untilSet, guarded_refuses inside] at switched
    cases switched
    rfl

omit [TimerQueue (Action ν σ) Q] in
theorem untilReady_refuses (inside : world.hub.inCallback = true) {id : ResultId} {reply : Except (Stop HubError) ν}
    (switched : untilReady (guarded loop) id turns world = some (reply, after)) :
    reply = .error (.failed .blockingInCallback) := by
  cases turns with
  | zero => cases switched
  | succ turns =>
    simp only [untilReady, guarded_refuses inside] at switched
    cases switched
    rfl

omit [TimerQueue (Action ν σ) Q] in
theorem steady_refused (loop : Switch Q ν σ) : Along (Inside Steady) (fun _ => []) (guarded loop) := by
  have begins : ∀ world : World Q ν σ, Steady [] world world.beginSwitch := World.SignsOn.beginSwitch
  exact inside_refused begins loop

/-- No panic can come through the wait of a callback, which is refused. -/
theorem carriesCallbacks_steady : CarriesCallbacks (Steady : Passage Q ν σ) fun _ => True where
  beginSwitch := World.SignsOn.beginSwitch
  call world delay label callback _ := steady_schedule world delay (.call label callback)
  wait {turns loop id limit world after reply} inside waited := by
    have inner : Carries (Inside Steady : Passage Q ν σ) := carries_steady.inside
    obtain ⟨signed, unwound⟩ := signsOn_wait (fun begun reply mid same switched =>
      (inner.untilSet (steady_refused loop) id turns begun reply mid switched (same.trans inside)).2) waited
    by_cases kept : lostIn (.wait id limit) world reply = []
    · rwa [kept] at signed
    · obtain ⟨begun, panic, mid, same, switched⟩ := unwound kept
      cases untilSet_refuses (same.trans inside) switched
  get {turns loop id limit world after reply} inside got := by
    have inner : Carries (Inside Steady : Passage Q ν σ) := carries_steady.inside
    obtain ⟨signed, unwound⟩ := signsOn_get (fun begun reply mid same switched =>
      (inner.untilReady (steady_refused loop) id turns begun reply mid switched (same.trans inside)).2) got
    by_cases kept : lostIn (.get id limit) world reply = []
    · rwa [kept] at signed
    · obtain ⟨begun, panic, mid, same, switched⟩ := unwound kept
      cases untilReady_refuses (same.trans inside) switched
  answer _ other _ _ _ answered := steady_answer other answered

theorem steady_turn (turns : Nat) (world : World Q ν σ) (taken : Turn Q ν σ) (ran : turn turns world = some taken) :
    SignsOn [] world taken.world := by
  unfold turn at ran
  split at ran
  · cases ran; exact .aside rfl rfl rfl rfl
  split at ran
  next found =>
    cases ran
    obtain ⟨-, rfl⟩ := Prod.mk.inj found
    exact .aside rfl rfl rfl rfl
  next alarm action rest found =>
    have arrived : SignsOn [] world ((rest.arrive alarm).setInCallback true) := by
      obtain ⟨-, rfl⟩ := Prod.mk.inj found
      exact .aside rfl rfl rfl rfl
    cases action with
    | wake => cases ran; exact arrived.trans (.aside rfl rfl rfl rfl)
    | raise error => cases ran; exact arrived.trans (.aside rfl rfl rfl rfl)
    | call label callback =>
      obtain ⟨⟨outcome, after⟩, called, rfl⟩ := Option.map_eq_some_iff.mp ran
      have left := carries_steady.callback carriesCallbacks_steady (Program.asks_anything callback) rfl called
      rcases outcome with (error | panic) | _ <;> exact (arrived.trans left).trans (.aside rfl rfl rfl rfl)

theorem steady_switch (turns : Nat) :
    Along (Steady : Passage Q ν σ) (guardedCalls (loopCalls turns)) (Run.switch turns) :=
  carries_steady.guarded World.SignsOn.beginSwitch (carries_steady.loop (fun turns _ => steady_turn turns) turns)

theorem signsOn_answer {α : Type} {request : Request ν σ α} {reply : α}
    (answered : answer turns (Run.switch turns) request world = some (reply, after)) :
    SignsOn (lostIn request world reply) world after := by
  have carries : Carries (Steady : Passage Q ν σ) := carries_steady
  have switches : Along (Steady : Passage Q ν σ) (guardedCalls (loopCalls turns)) (Run.switch turns) :=
    steady_switch turns
  cases request with
  | wait id limit =>
    exact (signsOn_wait (fun begun reply mid _ => carries.untilSet switches id turns begun reply mid) answered).1
  | get id limit =>
    exact (signsOn_get (fun begun reply mid _ => carries.untilReady switches id turns begun reply mid) answered).1
  | _ =>
    exact carries.answerAside switches turns rfl (fun other _ _ _ answered => steady_answer other answered)
      world reply after answered

theorem steady_loopMeets (turns : Nat) (world moment : World Q ν σ) (met : loopMeets turns world moment) :
    SignsOn [] world moment := by
  have carries : Carries fun _ => (SignsOn [] : World Q ν σ → World Q ν σ → Prop) := carries_steady
  refine carries.loopMeets steady_turn ?_ turns world moment met
  intro turns within world moment alarm label callback rest found met
  have arrived : SignsOn [] world ((rest.arrive alarm).setInCallback true) := by
    obtain ⟨-, rfl⟩ := Prod.mk.inj found
    exact .aside rfl rfl rfl rfl
  exact arrived.trans (carries_steady.callbackMeets carriesCallbacks_steady (Program.asks_anything callback) rfl met)

/-- In the middle of a wait, and of nothing else, somebody waits. -/
theorem signsOn_meetsIn {α : Type} {request : Request ν σ α} {moment : World Q ν σ}
    (met : MeetsIn turns (Run.switch turns) (guardedMeets (loopMeets turns)) request world moment) :
    SignsOn request.watched?.toList world moment := by
  have carries : Carries fun _ => (SignsOn [] : World Q ν σ → World Q ν σ → Prop) := carries_steady
  have switches : Along (Steady : Passage Q ν σ) (fun _ => []) (Run.switch turns) := steady_switch turns
  have within (world moment : World Q ν σ) (met : guardedMeets (loopMeets turns) world moment) :
      SignsOn [] world moment :=
    carries.guardedMeets World.SignsOn.beginSwitch (steady_loopMeets turns) met
  cases met with
  | switch met => exact within _ _ met
  | @sleep delay _ _ _ _ scheduled met =>
    have first := steady_schedule world delay .wake
    rw [scheduled] at first
    exact first.trans (within _ _ met)
  | @wait id limit _ _ started _ _ start met =>
    have first := carries_steady.startLimit world limit
    rw [start] at first
    exact first.unwound (started.recounted_addEventWaiter id) (carries.meetsUntil switches within met)
  | @get id limit _ _ started _ _ start met =>
    have first := carries_steady.startLimit world limit
    rw [start] at first
    exact first.unwound (started.recounted_addResultWaiter id) (carries.meetsUntil switches within met)

end

end Run

namespace Program

variable [TimerQueue (Action ν σ) Q]

/-- The moments of a run, with the wait that is in progress and the waits that panics have gone through. -/
inductive Attends (turns : Nat) :
    {α : Type} → Program ν σ α → World Q ν σ → Option Watched → List Watched → World Q ν σ → Prop where
  | here {α : Type} {program : Program ν σ α} {world : World Q ν σ} : Attends turns program world none [] world
  | inside {α β : Type} {asked : Request ν σ β} {next : β → Program ν σ α} {world moment : World Q ν σ}
      (met : Run.MeetsIn turns (Run.switch turns) (Run.guardedMeets (Run.loopMeets turns)) asked world moment) :
      Attends turns (.request asked next) world asked.watched? [] moment
  | request {α β : Type} {asked : Request ν σ β} {next : β → Program ν σ α} {reply : β}
      {world after moment : World Q ν σ} {unfinished : Option Watched} {lost : List Watched}
      (answered : Run.answer turns (Run.switch turns) asked world = some (reply, after))
      (rest : Attends turns (next reply) after unfinished lost moment) :
      Attends turns (.request asked next) world unfinished (Run.lostIn asked world reply ++ lost) moment
  | call {α : Type} {delay : Nat} {label : String} {callback : Callback ν σ} {next : Except Panic Nat → Program ν σ α}
      {reply : Except Panic Nat} {world armed moment : World Q ν σ} {unfinished : Option Watched} {lost : List Watched}
      (scheduled : world.schedule delay (.call label callback) = (reply, armed))
      (rest : Attends turns (next reply) armed unfinished lost moment) :
      Attends turns (.call delay label callback next) world unfinished lost moment

variable {α : Type} {turns : Nat} {program : Program ν σ α} {world moment : World Q ν σ}

/-- No moment is left out. -/
theorem meets_iff_attends :
    program.Meets turns world moment ↔ ∃ unfinished lost, program.Attends turns world unfinished lost moment := by
  constructor
  · intro met
    unfold Program.Meets at met
    induction met with
    | here => exact ⟨none, [], .here⟩
    | inside met => exact ⟨_, [], .inside met⟩
    | request answered _ ih =>
      obtain ⟨unfinished, lost, attends⟩ := ih
      exact ⟨unfinished, _, .request answered attends⟩
    | call scheduled _ ih =>
      obtain ⟨unfinished, lost, attends⟩ := ih
      exact ⟨unfinished, lost, .call scheduled attends⟩
  · rintro ⟨unfinished, lost, attends⟩
    unfold Program.Meets
    induction attends with
    | here => exact .here
    | inside met => exact .inside met
    | request answered _ ih => exact .request answered ih
    | call scheduled _ ih => exact .call scheduled ih

/-- Whoever is signed on waits still, or a panic took the wait away. -/
theorem Attends.signsOn {unfinished : Option Watched} {lost : List Watched}
    (attends : program.Attends turns world unfinished lost moment) :
    World.SignsOn (lost ++ unfinished.toList) world moment := by
  induction attends with
  | here => exact .aside rfl rfl rfl rfl
  | inside met => exact Run.signsOn_meetsIn met
  | request answered _ ih =>
    rw [List.append_assoc]
    exact (Run.signsOn_answer answered).trans ih
  | @call delay label callback _ _ world _ _ _ _ scheduled _ ih =>
    have armed := Run.steady_schedule world delay (.call label callback)
    rw [scheduled] at armed
    exact armed.trans ih

/-- The waits of a whole run that panics went through. -/
def lostWaits (turns : Nat) {α : Type} : Program ν σ α → World Q ν σ → List Watched
  | .pure _, _ => []
  | .request asked next, world =>
    match Run.answer turns (Run.switch turns) asked world with
    | some (reply, after) => Run.lostIn asked world reply ++ lostWaits turns (next reply) after
    | none => []
  | .call delay label callback next, world =>
    let (reply, armed) := world.schedule delay (.call label callback)
    lostWaits turns (next reply) armed

/-- When a run is over, no wait is in progress. -/
theorem attends_end {value : α} {after : World Q ν σ} (ran : program.run turns world = some (value, after)) :
    program.Attends turns world none (program.lostWaits turns world) after := by
  unfold Program.run at ran
  induction program generalizing world with
  | pure value => cases ran; exact .here
  | request asked next ih =>
    simp only [Run.program] at ran
    simp only [lostWaits]
    split at ran
    · cases ran
    next reply later answered =>
      simp only [answered]
      exact .request answered (ih reply ran)
  | call delay label callback next _ ih => exact .call rfl (ih _ ran)

end Program

/-! What a waiter that is left behind does, and what none does. -/

/-- What was waited for is there. -/
inductive Completes : Watched → World Q ν σ → World Q ν σ → Prop where
  | event {world : World Q ν σ} (id : EventId) : Completes (.event id) world (world.setEvent id)
  | result {world : World Q ν σ} (id : ResultId) (value : Except HubError ν) :
      Completes (.result id) world (world.complete id value)

section

variable {world after : World Q ν σ} {watched : Watched}

theorem Completes.hub_eq (completes : Completes watched world after) (nobody : world.waiters watched = 0) :
    after.hub = world.hub := by
  cases completes with
  | event id =>
    have unawaited : (world.event id).waiters = 0 := nobody
    simp only [World.setEvent, unawaited, Nat.lt_irrefl, if_false]
    rfl
  | result id value =>
    have unawaited : (world.result id).waiters = 0 := nobody
    simp only [World.complete, unawaited, Nat.lt_irrefl, if_false]
    rfl

theorem Completes.wakes (completes : Completes watched world after) (somebody : 0 < world.waiters watched) :
    after.hub.woken = true := by
  cases completes with
  | event id =>
    have awaited : (world.event id).waiters > 0 := somebody
    simp only [World.setEvent, awaited, if_true]
    rfl
  | result id value =>
    have awaited : (world.result id).waiters > 0 := somebody
    simp only [World.complete, awaited, if_true]
    rfl

variable [TimerQueue (Action ν σ) Q]

theorem World.Steps.firings_length_le (steps : World.Steps world after) : world.firings.length ≤ after.firings.length :=
  (steps.journal_grows.filterMap HubEvent.firing?).length_le

theorem Run.answer_fire_ne_ok {turns : Nat} {alarm : Alarm} {action : Action ν σ} {ending : Run.Ending}
    (fired : Run.fire turns world alarm action = some (.leaves ending after)) : ending.answer ≠ .ok () := by
  cases action with
  | wake => cases fired
  | raise error => cases fired; exact fun impossible => by cases impossible
  | call label callback =>
    obtain ⟨⟨outcome, last⟩, -, left⟩ := Option.map_eq_some_iff.mp fired
    rcases outcome with (error | panic) | _ <;> cases left
    exact fun impossible => by cases impossible

theorem Run.loop_fires {turns : Nat} (unwoken : world.hub.woken = false)
    (ran : Run.loop turns world = some (.ok (), after)) : world.firings.length < after.firings.length := by
  cases turns with
  | zero => cases ran
  | succ turns =>
    rw [Run.loop_succ, Run.turn, unwoken] at ran
    simp only [Bool.false_eq_true, if_false] at ran
    split at ran
    · cases ran
    next ending last taken =>
      obtain ⟨same, rfl⟩ := Prod.mk.inj (Option.some.inj ran)
      split at taken
      · cases taken; cases same
      · exact absurd same (Run.answer_fire_ne_ok taken)
    next next taken =>
      split at taken
      · cases taken
      next alarm action rest found =>
        have before : world.firings.length < (rest.arrive alarm).firings.length := by
          obtain ⟨-, rfl⟩ := Prod.mk.inj found
          exact Nat.lt_succ_self _
        have fired := (Run.fire_steps (Run.loop_steps turns) taken).firings_length_le
        have later := (Run.loop_steps turns _ _ _ ran).firings_length_le
        exact Nat.lt_of_lt_of_le before (Nat.le_trans fired later)

/-- Without a wake that is pending, a task is not resumed before a timer has fired. -/
theorem Run.switch_fires {turns : Nat} (unwoken : world.hub.woken = false)
    (ran : Run.switch turns world = some (.ok (), after)) : world.firings.length < after.firings.length := by
  have begun := world.beginSwitch_steps.firings_length_le
  have still : world.beginSwitch.hub.woken = false := by
    unfold World.beginSwitch
    split <;> exact unwoken
  simp only [Run.switch, Run.guarded] at ran
  split at ran
  · cases ran
  · exact Nat.lt_of_le_of_lt begun (Run.loop_fires still ran)

theorem Run.sleep_fires {turns delay : Nat} (unwoken : world.hub.woken = false)
    (ran : Run.sleep (Run.switch turns) delay world = some (.ok (), after)) :
    world.firings.length < after.firings.length := by
  have scheduled : World.Steps world (world.schedule delay .wake).2 := .single (.schedule world delay .wake)
  have still : (world.schedule delay .wake).2.hub.woken = false := by
    unfold World.schedule
    dsimp only
    split <;> exact unwoken
  unfold Run.sleep at ran
  split at ran
  · cases ran
  next timer armed answered =>
    rw [answered] at scheduled still
    split at ran
    · cases ran
    · cases ran
    next reply resumed _ switched =>
      obtain ⟨rfl, rfl⟩ := Prod.mk.inj (Option.some.inj ran)
      have fires := Run.switch_fires still switched
      exact Nat.lt_of_le_of_lt scheduled.firings_length_le
        (Nat.lt_of_lt_of_le fires (resumed.cancel_steps timer).firings_length_le)

/-- Nobody waits for this. When it is there, the hub is not woken, and no task is resumed because of it. -/
structure Unawaited (watched : Watched) (world : World Q ν σ) : Prop where
  waiters : world.waiters watched = 0
  hub : ∀ after, Completes watched world after → after.hub = world.hub
  switch : ∀ after turns later, Completes watched world after → world.hub.woken = false →
    Run.switch turns after = some (.ok (), later) → world.firings.length < later.firings.length
  sleep : ∀ after turns delay later, Completes watched world after → world.hub.woken = false →
    Run.sleep (Run.switch turns) delay after = some (.ok (), later) → world.firings.length < later.firings.length

theorem unawaited_of_waiters (nobody : world.waiters watched = 0) : Unawaited watched world := by
  refine ⟨nobody, fun after completes => completes.hub_eq nobody, ?_, ?_⟩
  · intro after turns later completes unwoken ran
    have same := completes.hub_eq nobody
    have fires := Run.switch_fires (same ▸ unwoken) ran
    rwa [World.firings, same] at fires
  · intro after turns delay later completes unwoken ran
    have same := completes.hub_eq nobody
    have fires := Run.sleep_fires (same ▸ unwoken) ran
    rwa [World.firings, same] at fires

end

/-- However waits end, by what they wait for, by their own timeouts or by other interrupts, they leave nobody behind. A
wait that a panic goes through is the exception. -/
theorem Program.waits_signed_off {α : Type} (front : Front) (memory : σ) (program : Program ν σ α) (turns : Nat)
    (unfinished : Option Watched) (lost : List Watched) (moment : Bench ν σ)
    (attends : program.Attends turns (Bench.fresh front memory) unfinished lost moment) (watched : Watched)
    (idle : unfinished ≠ some watched) (kept : watched ∉ lost) : Unawaited watched moment := by
  have most := (attends.signsOn watched).1
  have uncounted : (lost ++ unfinished.toList).count watched = 0 := by
    rw [List.count_eq_zero, List.mem_append, not_or, Option.mem_toList]
    exact ⟨kept, idle⟩
  have fresh : (Bench.fresh front memory : Bench ν σ).waiters watched = 0 := by cases watched <;> rfl
  rw [uncounted, fresh] at most
  exact unawaited_of_waiters (Nat.le_zero.mp most)

/-- The event is set in time, then it is not, and the result never comes. -/
def waiting : Program Unit Unit (Except (Stop HubError) Unit) := do
  let event ← Program.ask .newEvent
  let result ← Program.ask .newResult
  let _ ← Program.scheduleCall 2 "setter" (Task.ask (.setEvent event))
  let _ ← Program.ask (.wait event .never)
  Program.ask (.clearEvent event)
  let _ ← Program.ask (.wait event (.after 3))
  Program.ask (.get result (.after 3))

theorem waiting_signed_off : ∃ value, ∃ after : Bench Unit Unit,
    waiting.run 5 (Bench.fresh .direct ()) = some (value, after) ∧
    Unawaited (.event ⟨0⟩) after ∧ Unawaited (.result ⟨0⟩) after := by
  have finishes : (waiting.run 5 (Bench.fresh .direct ())).isSome = true := by decide +kernel
  have kept : waiting.lostWaits 5 (Bench.fresh .direct ()) = [] := by decide +kernel
  obtain ⟨⟨value, after⟩, ran⟩ := Option.isSome_iff_exists.mp finishes
  have attends := Program.attends_end ran
  rw [kept] at attends
  have signedOff (watched : Watched) : Unawaited watched after :=
    Program.waits_signed_off .direct () waiting 5 none [] after attends watched nofun List.not_mem_nil
  exact ⟨value, after, ran, signedOff _, signedOff _⟩

/-- A wait that a panic went through stays signed on for good, and what it waited for wakes the hub from then on. -/
theorem Program.lost_waits_wake {α : Type} [TimerQueue (Action ν σ) Q] {program : Program ν σ α} {turns : Nat}
    {unfinished : Option Watched} {lost : List Watched} {world moment after : World Q ν σ} {watched : Watched}
    (attends : program.Attends turns world unfinished lost moment) (made : world.Made watched) (member : watched ∈ lost)
    (completes : Completes watched moment after) : after.hub.woken = true := by
  obtain ⟨-, exactly⟩ := attends.signsOn watched
  have counted := List.count_pos_iff.mpr member
  have waiters := (exactly made).2
  rw [List.count_append] at waiters
  exact completes.wakes (by omega)

/-- A callback panics while the event is waited for. -/
def unwinding : Program Unit Unit (Except (Stop HubError) Waited) := do
  let event ← Program.ask .newEvent
  let _ ← Program.scheduleCall 0 "bomb" (Task.panic ⟨some "boom"⟩)
  Program.ask (.wait event .never)

/-- Nobody waits any more, and yet the event resumes the next task at once. -/
theorem unwound_wait_left_behind : ∃ moment later : Bench Unit Unit,
    unwinding.Attends 3 (Bench.fresh .direct ()) none [.event ⟨0⟩] moment ∧ moment.waiters (.event ⟨0⟩) = 1 ∧
      moment.hub.woken = false ∧ (moment.setEvent ⟨0⟩).hub.woken = true ∧
      Run.switch 1 (moment.setEvent ⟨0⟩) = some (.ok (), later) ∧ later.firings.length = moment.firings.length := by
  have lost : unwinding.lostWaits 3 (Bench.fresh .direct ()) = [.event ⟨0⟩] := by decide +kernel
  have runs : ((unwinding.run 3 (Bench.fresh .direct ())).map fun (_, moment) =>
      (moment.waiters (.event ⟨0⟩), moment.hub.woken, (moment.setEvent ⟨0⟩).hub.woken,
        (Run.switch 1 (moment.setEvent ⟨0⟩)).map fun (ended, later) =>
          (ended.isOk, later.firings.length == moment.firings.length))) =
      some (1, false, true, some (true, true)) := by decide +kernel
  obtain ⟨⟨reply, moment⟩, ran, facts⟩ := Option.map_eq_some_iff.mp runs
  obtain ⟨waiters, unwoken, woken, switches⟩ := by simpa only [Prod.mk.injEq] using facts
  obtain ⟨⟨ended, later⟩, switched, resumed⟩ := Option.map_eq_some_iff.mp switches
  obtain ⟨isOk, sameFirings⟩ := Prod.mk.inj resumed
  have attends := Program.attends_end ran
  rw [lost] at attends
  cases ended with
  | error stop => cases isOk
  | ok => exact ⟨moment, later, attends, waiters, unwoken, woken, switched, eq_of_beq sameFirings⟩

end Testbench
