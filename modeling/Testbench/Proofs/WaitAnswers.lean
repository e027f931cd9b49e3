import Testbench.Bench
import Testbench.Proofs.WaiterAccounting

/-! What a wait is answered. Whoever completes what somebody waits for wakes the hub, and the hub looks for a wake
before it looks for a timer: what a callback leaves there is seen before anything else fires, and what is there when
a wait is over has been seen. -/

namespace Testbench

variable {ν σ : Type} {Q : Type 1}

namespace World

/-- The event is set, or the result is ready. -/
def present (world : World Q ν σ) : Watched → Bool
  | .event id => (world.event id).isSet
  | .result id => (world.result id).isReady

/-- Nothing fired, nobody was woken, and what was waited for neither came nor went. -/
structure Uneventful (world after : World Q ν σ) : Prop where
  firings : after.firings = world.firings
  woken : after.hub.woken = world.hub.woken
  sets : ∀ id, (after.event id).isSet = (world.event id).isSet
  values : ∀ id, (after.result id).value = (world.result id).value

/-- Somebody waits for it. When it is there, a wake is pending. -/
structure Attentive (watched : Watched) (world : World Q ν σ) : Prop where
  made : world.Made watched
  awaited : 0 < world.waiters watched
  woken : world.present watched = true → world.hub.woken = true

section

variable {world mid after : World Q ν σ} {watched : Watched}

theorem event_setEventState (world : World Q ν σ) (id other : EventId) (event : Event) :
    (world.setEventState id event).event other = if other = id then event else world.event other := by
  unfold World.event setEventState
  rw [Registry.get?_set]
  split <;> rfl

theorem result_setResultState (world : World Q ν σ) (id other : ResultId) (result : AsyncResult ν) :
    (world.setResultState id result).result other = if other = id then result else world.result other := by
  unfold World.result setResultState
  rw [Registry.get?_set]
  split <;> rfl

namespace Uneventful

theorem trans (first : Uneventful world mid) (second : Uneventful mid after) : Uneventful world after :=
  ⟨second.firings.trans first.firings, second.woken.trans first.woken,
    fun id => (second.sets id).trans (first.sets id), fun id => (second.values id).trans (first.values id)⟩

theorem aside (firings : after.firings = world.firings) (woken : after.hub.woken = world.hub.woken)
    (events : after.events = world.events) (results : after.results = world.results) : Uneventful world after := by
  refine ⟨firings, woken, fun id => ?_, fun id => ?_⟩
  · simp only [World.event, events]
  · simp only [World.result, results]

/-- Only the waiters are counted anew. -/
theorem recount (world : World Q ν σ) (id : EventId) (waiters : Nat) :
    Uneventful world (world.setEventState id { world.event id with waiters }) := by
  refine ⟨rfl, rfl, fun other => ?_, fun _ => rfl⟩
  rw [event_setEventState]
  split
  next same => rw [same]
  next => rfl

theorem recountResult (world : World Q ν σ) (id : ResultId) (waiters : Nat) :
    Uneventful world (world.setResultState id { world.result id with waiters }) := by
  refine ⟨rfl, rfl, fun _ => rfl, fun other => ?_⟩
  rw [result_setResultState]
  split
  next same => rw [same]
  next => rfl

theorem present (uneventful : Uneventful world after) (watched : Watched) :
    after.present watched = world.present watched := by
  cases watched with
  | event id => exact uneventful.sets id
  | result id => exact congrArg Option.isSome (uneventful.values id)

theorem beginSwitch (world : World Q ν σ) : Uneventful world world.beginSwitch := by
  unfold World.beginSwitch
  split <;> exact aside rfl rfl rfl rfl

end Uneventful

namespace Attentive

/-- It came with a wake, or it was there before. -/
theorem follow (attentive : Attentive watched world) (signs : SignsOn [] world after)
    (came : after.present watched = true → world.present watched = true ∨ after.hub.woken = true)
    (woken : world.hub.woken = true → after.hub.woken = true) : Attentive watched after := by
  obtain ⟨made, waiters⟩ := (signs watched).2 attentive.made
  rw [List.count_nil] at waiters
  refine ⟨made, waiters ▸ attentive.awaited, fun present => ?_⟩
  exact (came present).elim (fun before => woken (attentive.woken before)) id

theorem uneventful (attentive : Attentive watched world) (signs : SignsOn [] world after)
    (uneventful : Uneventful world after) : Attentive watched after :=
  attentive.follow signs (fun present => .inl ((uneventful.present watched).symm.trans present))
    fun woken => uneventful.woken.trans woken

theorem absent (attentive : Attentive watched world) (unwoken : world.hub.woken = false) :
    world.present watched = false :=
  Bool.eq_false_iff.mpr fun present => Bool.noConfusion (unwoken.symm.trans (attentive.woken present))

theorem setEvent (attentive : Attentive watched world) (id : EventId) : Attentive watched (world.setEvent id) := by
  refine attentive.follow (.setEvent world id) (fun present => ?_) fun woken => ?_
  · unfold World.setEvent at present ⊢
    dsimp only at present ⊢
    split at present
    next awaited => rw [if_pos awaited]; exact .inr rfl
    next unawaited =>
      refine .inl ?_
      cases watched with
      | event other =>
        have different : other ≠ id := fun same => unawaited (same ▸ attentive.awaited)
        rwa [World.present, event_setEventState, if_neg different] at present
      | result other => exact present
  · unfold World.setEvent
    dsimp only
    split
    · rfl
    · exact woken

theorem complete (attentive : Attentive watched world) (id : ResultId) (value : Except HubError ν) :
    Attentive watched (world.complete id value) := by
  refine attentive.follow (.complete world id value) (fun present => ?_) fun woken => ?_
  · unfold World.complete at present ⊢
    dsimp only at present ⊢
    split at present
    next awaited => rw [if_pos awaited]; exact .inr rfl
    next unawaited =>
      refine .inl ?_
      cases watched with
      | event other => exact present
      | result other =>
        have different : other ≠ id := fun same => unawaited (same ▸ attentive.awaited)
        rwa [World.present, result_setResultState, if_neg different] at present
  · unfold World.complete
    dsimp only
    split
    · rfl
    · exact woken

theorem clearEvent (attentive : Attentive watched world) (id : EventId) :
    Attentive watched (world.clearEvent id) := by
  refine attentive.follow (.flag world id false) (fun present => .inl ?_) fun woken => woken
  cases watched with
  | event other =>
    rw [World.present, World.clearEvent, event_setEventState] at present
    split at present
    · cases present
    · exact present
  | result other => exact present

theorem newEvent (attentive : Attentive watched world) : Attentive watched world.newEvent.2 := by
  have unmade : ¬ world.Made (.event ⟨world.eventsMade⟩) := Nat.lt_irrefl _
  refine attentive.follow (.fresh unmade (recounted_newEvent world)) (fun present => .inl ?_) fun woken => woken
  cases watched with
  | event other =>
    have different : other ≠ ⟨world.eventsMade⟩ := fun same => unmade (same ▸ attentive.made)
    have same := world.event_setEventState ⟨world.eventsMade⟩ other {}
    rw [if_neg different] at same
    exact (congrArg Event.isSet same).symm.trans present
  | result other => exact present

theorem newResult (attentive : Attentive watched world) : Attentive watched world.newResult.2 := by
  have unmade : ¬ world.Made (.result ⟨world.resultsMade⟩) := Nat.lt_irrefl _
  refine attentive.follow (.fresh unmade (recounted_newResult world)) (fun present => .inl ?_) fun woken => woken
  cases watched with
  | event other => exact present
  | result other =>
    have different : other ≠ ⟨world.resultsMade⟩ := fun same => unmade (same ▸ attentive.made)
    have same := world.result_setResultState ⟨world.resultsMade⟩ other {}
    rw [if_neg different] at same
    exact (congrArg AsyncResult.isReady same).symm.trans present

end Attentive

end

end World

namespace Run

open World (Uneventful Attentive SignsOn)

variable [TimerQueue (Action ν σ) Q]

theorem uneventful_schedule (world : World Q ν σ) (delay : Nat) (action : Action ν σ) :
    Uneventful world (world.schedule delay action).2 := by
  unfold World.schedule
  dsimp only
  split <;> exact .aside rfl rfl rfl rfl

theorem carries_uneventful : Carries fun _ => (Uneventful : World Q ν σ → World Q ν σ → Prop) := by
  refine carries_of_timers (fun _ => .aside rfl rfl rfl rfl) (fun first second => first.trans second) ?_ ?_ ?_
  · exact fun world delay signal => uneventful_schedule world delay signal.action
  · intro world timer
    unfold World.cancel
    split <;> exact .aside rfl rfl rfl rfl
  · exact fun _ _ _ => .aside rfl rfl rfl rfl

omit [TimerQueue (Action ν σ) Q] in
theorem signs_uneventful : Signs fun _ => (Uneventful : World Q ν σ → World Q ν σ → Prop) where
  addEventWaiter world id := .recount world id _
  removeEventWaiter world id := .recount world id _
  addResultWaiter world id := .recountResult world id _
  removeResultWaiter world id := .recountResult world id _

/-- Nothing fires, and whoever was attentive is. -/
def Heeds (watched : Watched) : Passage Q ν σ := fun _ world after =>
  after.firings = world.firings ∧ (Attentive watched world → Attentive watched after)

omit [TimerQueue (Action ν σ) Q] in
theorem heeds_uneventful {watched : Watched} {world after : World Q ν σ} (uneventful : Uneventful world after)
    (signs : SignsOn [] world after) : Heeds watched [] world after :=
  ⟨uneventful.firings, fun attentive => attentive.uneventful signs uneventful⟩

theorem carries_heeds (watched : Watched) : Carries (Heeds watched : Passage Q ν σ) where
  refl _ := ⟨rfl, id⟩
  trans first second := ⟨second.1.trans first.1, second.2 ∘ first.2⟩
  schedule world delay signal :=
    heeds_uneventful (carries_uneventful.schedule world delay signal) (carries_steady.schedule world delay signal)
  cancel world timer := heeds_uneventful (carries_uneventful.cancel world timer) (carries_steady.cancel world timer)
  newTimeout world after :=
    heeds_uneventful (carries_uneventful.newTimeout world after) (carries_steady.newTimeout world after)
  startTimeout world timeout :=
    heeds_uneventful (carries_uneventful.startTimeout world timeout) (carries_steady.startTimeout world timeout)
  cancelTimeout world timeout :=
    heeds_uneventful (carries_uneventful.cancelTimeout world timeout) (carries_steady.cancelTimeout world timeout)

section

variable {watched : Watched} {turns : Nat} {switch loop : Switch Q ν σ} {world after : World Q ν σ}

theorem heeds_answer {α : Type} {request : Request ν σ α} (other : request.ofTimers = false) {reply : α}
    (answered : answer turns switch request world = some (reply, after)) : Heeds watched [] world after := by
  cases request with
  | switch | sleep | wait | get | newTimeout | startTimeout | cancelTimeout => cases other
  | hub request =>
    cases request with
    | schedule | cancel => cases other
    | wake =>
      cases answered
      exact ⟨rfl, fun attentive => attentive.follow (.aside rfl rfl rfl rfl) (fun _ => .inr rfl) fun _ => rfl⟩
    | _ => cases answered; exact heeds_uneventful (.aside rfl rfl rfl rfl) (.aside rfl rfl rfl rfl)
  | newEvent => cases answered; exact ⟨rfl, Attentive.newEvent⟩
  | setEvent id =>
    cases answered
    refine ⟨?_, fun attentive => attentive.setEvent id⟩
    unfold World.setEvent
    dsimp only
    split <;> rfl
  | clearEvent id => cases answered; exact ⟨rfl, fun attentive => attentive.clearEvent id⟩
  | newResult => cases answered; exact ⟨rfl, Attentive.newResult⟩
  | complete id value =>
    cases answered
    refine ⟨?_, fun attentive => attentive.complete id value⟩
    unfold World.complete
    dsimp only
    split <;> rfl
  | _ => cases answered; exact heeds_uneventful (.aside rfl rfl rfl rfl) (.aside rfl rfl rfl rfl)

theorem carriesCallbacks_heeds (watched : Watched) :
    CarriesCallbacks (Heeds watched : Passage Q ν σ) fun _ => True where
  beginSwitch world := heeds_uneventful (.beginSwitch world) (.beginSwitch world)
  call world delay label callback _ :=
    heeds_uneventful (uneventful_schedule world delay _) (steady_schedule world delay _)
  wait {turns loop id limit world after reply} inside waited := by
    have refused := inside_refused (R := fun _ => Uneventful) Uneventful.beginSwitch loop
    have uneventful : Inside (fun _ => Uneventful) _ world after :=
      carries_uneventful.inside.wait refused signs_uneventful.inside turns id limit world reply after waited
    exact heeds_uneventful (uneventful inside).2 (carriesCallbacks_steady.wait inside waited)
  get {turns loop id limit world after reply} inside got := by
    have refused := inside_refused (R := fun _ => Uneventful) Uneventful.beginSwitch loop
    have uneventful : Inside (fun _ => Uneventful) _ world after :=
      carries_uneventful.inside.get refused signs_uneventful.inside turns id limit world reply after got
    exact heeds_uneventful (uneventful inside).2 (carriesCallbacks_steady.get inside got)
  answer _ other _ _ _ answered := heeds_answer other answered

end

/-! The turns of the hub while somebody waits. -/

/-- What a turn comes to. The hub stays in its loop without anything there, or a callback has just left it there. -/
inductive Heeding (watched : Watched) (world : World Q ν σ) : Turn Q ν σ → Prop where
  | resumed (woken : world.hub.woken = true) : Heeding watched world (.leaves .resumed world.clearWoken)
  | missed {ending : Ending} {last : World Q ν σ} {error : HubError} (failed : ending.answer = .error (.failed error))
      (absent : last.present watched = false) : Heeding watched world (.leaves ending last)
  | unwound {panic : Panic} {last : World Q ν σ} : Heeding watched world (.leaves (.unwound panic) last)
  | stays {next : World Q ν σ} (unwoken : world.hub.woken = false) (attentive : Attentive watched next)
      (brought : next.present watched = true → ∃ alarm label callback rest,
        world.takeNext = (some (alarm, .call label callback), rest)) : Heeding watched world (.stays next)

/-- The hub comes back from a callback that left there what was not there before. -/
inductive Brings (watched : Watched) : Nat → Meeting Q ν σ where
  | now {turns : Nat} {head next rest : World Q ν σ} {alarm : Alarm} {label : String} {callback : Callback ν σ}
      (absent : head.present watched = false) (unwoken : head.hub.woken = false)
      (found : head.takeNext = (some (alarm, .call label callback), rest)) (stayed : turn turns head = some (.stays next))
      (present : next.present watched = true) : Brings watched (turns + 1) head next
  | later {turns : Nat} {head mid next : World Q ν σ} (stayed : turn turns head = some (.stays mid))
      (brings : Brings watched turns mid next) : Brings watched (turns + 1) head next

section

variable {watched : Watched} {turns : Nat} {world after : World Q ν σ}

theorem heeding_turn (attentive : Attentive watched world) {taken : Turn Q ν σ} (ran : turn turns world = some taken) :
    Heeding watched world taken := by
  unfold turn at ran
  split at ran
  next woken => cases ran; exact .resumed woken
  next unwoken =>
    have unwoken := Bool.eq_false_iff.mpr unwoken
    have absent := attentive.absent unwoken
    split at ran
    next rest found =>
      cases ran
      obtain ⟨-, rfl⟩ := Prod.mk.inj found
      exact .missed rfl absent
    next alarm action rest found =>
      have arrived : Attentive watched (rest.arrive alarm) ∧ (rest.arrive alarm).present watched = false := by
        obtain ⟨-, rfl⟩ := Prod.mk.inj found
        exact ⟨attentive.follow (.aside rfl rfl rfl rfl) .inl id, absent⟩
      cases action with
      | wake =>
        cases ran
        refine .stays unwoken (arrived.1.follow (.aside rfl rfl rfl rfl) (fun _ => .inr rfl) fun _ => rfl) ?_
        exact fun present => Bool.noConfusion (present.symm.trans arrived.2)
      | raise error => cases ran; exact .missed rfl arrived.2
      | call label callback =>
        obtain ⟨⟨outcome, called⟩, runs, rfl⟩ := Option.map_eq_some_iff.mp ran
        have begun : Attentive watched ((rest.arrive alarm).setInCallback true) :=
          arrived.1.follow (.aside rfl rfl rfl rfl) .inl id
        have heeds := (carries_heeds watched).callback (carriesCallbacks_heeds watched)
          (Program.asks_anything callback) rfl runs
        have left : Attentive watched (called.setInCallback false) :=
          (heeds.2 begun).follow (.aside rfl rfl rfl rfl) .inl id
        rcases outcome with (error | panic) | _
        · exact .stays unwoken (left.follow (.aside rfl rfl rfl rfl) .inl id) fun _ => ⟨alarm, label, callback, rest, found⟩
        · exact .unwound
        · exact .stays unwoken left fun _ => ⟨alarm, label, callback, rest, found⟩

/-- How a switch ends, given the moments at which a callback has left there what is waited for. -/
structure Heeded (watched : Watched) (brought : World Q ν σ → Prop) (answer : Except (Stop HubError) Unit)
    (after : World Q ν σ) : Prop where
  kept : ∀ next, brought next → answer = .ok () ∧ after = next.clearWoken
  resumed : answer = .ok () → if after.present watched then ∃ next, brought next else Attentive watched after
  missed : ∀ error, answer = .error (.failed error) → after.present watched = false

theorem loop_woken (woken : world.hub.woken = true) {answer : Except (Stop HubError) Unit}
    (ran : loop turns world = some (answer, after)) : answer = .ok () ∧ after = world.clearWoken := by
  cases turns with
  | zero => cases ran
  | succ turns =>
    simp only [loop, woken, if_true, Option.some.injEq, Prod.mk.injEq] at ran
    exact ⟨ran.1.symm, ran.2.symm⟩

/-- While a wake is pending, no callback is run. -/
theorem Brings.unwoken {next : World Q ν σ} (brings : Brings watched turns world next) : world.hub.woken = false := by
  cases brings with
  | now _ unwoken => exact unwoken
  | later stayed =>
    refine Bool.eq_false_iff.mpr fun woken => ?_
    rw [turn, if_pos woken] at stayed
    cases stayed

theorem loop_heeded (attentive : Attentive watched world) (absent : world.present watched = false)
    {answer : Except (Stop HubError) Unit} (ran : loop turns world = some (answer, after)) :
    Heeded watched (Brings watched turns world) answer after := by
  induction turns generalizing world with
  | zero => cases ran
  | succ turns ih =>
    rw [loop_succ] at ran
    split at ran
    · cases ran
    next ending last taken =>
      obtain ⟨rfl, rfl⟩ := Prod.mk.inj (Option.some.inj ran)
      -- Nothing is brought in a turn that leaves the loop.
      have nothing (next : World Q ν σ) : ¬ Brings watched (turns + 1) world next := by
        intro brings
        cases brings with
        | now _ _ _ stayed => cases stayed.symm.trans taken
        | later stayed => cases stayed.symm.trans taken
      refine ⟨fun next brings => absurd brings (nothing next), ?_, ?_⟩
      · intro isOk
        cases heeding_turn attentive taken with
        | resumed woken =>
          have still : world.clearWoken.present watched = false := absent
          rw [still]
          exact ⟨attentive.made, attentive.awaited, fun present => Bool.noConfusion (present.symm.trans still)⟩
        | missed failed => cases failed.symm.trans isOk
        | unwound => cases isOk
      · intro error isFailed
        cases heeding_turn attentive taken with
        | resumed woken => cases isFailed
        | missed _ absent => exact absent
        | unwound => cases isFailed
    next mid taken =>
      cases heeding_turn attentive taken with
      | stays unwoken next brought =>
        cases here : mid.present watched with
        | true =>
          obtain ⟨rfl, rfl⟩ := loop_woken (next.woken here) ran
          obtain ⟨alarm, label, callback, rest, found⟩ := brought here
          have woken := next.woken here
          refine ⟨fun last brings => ?_, fun _ => ?_, nofun⟩
          · cases brings with
            | now _ _ _ stayed => cases stayed.symm.trans taken; exact ⟨rfl, rfl⟩
            | later stayed brings =>
              cases stayed.symm.trans taken
              exact Bool.noConfusion (brings.unwoken.symm.trans woken)
          · rw [show mid.clearWoken.present watched = true from here]
            exact ⟨mid, .now absent unwoken found taken here⟩
        | false =>
          obtain ⟨kept, resumed, missed⟩ := ih next here ran
          refine ⟨fun last brings => ?_, fun isOk => ?_, missed⟩
          · cases brings with
            | now _ _ _ stayed present =>
              cases stayed.symm.trans taken
              cases present.symm.trans here
            | later stayed brings =>
              cases stayed.symm.trans taken
              exact kept last brings
          · have found := resumed isOk
            split
            next present =>
              rw [if_pos present] at found
              exact found.imp fun _ brings => .later taken brings
            next absent => rwa [if_neg absent] at found

theorem switch_heeded (attentive : Attentive watched world) (absent : world.present watched = false)
    {answer : Except (Stop HubError) Unit} (ran : Run.switch turns world = some (answer, after)) :
    Heeded watched (guardedMeets (Brings watched turns) world) answer after := by
  have uneventful := Uneventful.beginSwitch world
  have still : world.beginSwitch.present watched = false := (uneventful.present watched).trans absent
  simp only [Run.switch, guarded] at ran
  split at ran
  next refused =>
    obtain ⟨rfl, rfl⟩ := Prod.mk.inj (Option.some.inj ran)
    refine ⟨fun next met => ?_, fun isOk => ?_, fun _ _ => still⟩
    · exact Bool.noConfusion (met.1.symm.trans refused)
    · cases isOk
  next admitted =>
    obtain ⟨kept, resumed, missed⟩ := loop_heeded (attentive.uneventful (.beginSwitch world) uneventful) still ran
    refine ⟨fun next met => kept next met.2, fun isOk => ?_, missed⟩
    have found := resumed isOk
    split
    next present =>
      rw [if_pos present] at found
      exact found.imp fun _ brings => ⟨Bool.eq_false_iff.mpr admitted, brings⟩
    next absent => rwa [if_neg absent] at found

/-- Switches until what is waited for is there. -/
def untilPresent (switch : Switch Q ν σ) (watched : Watched) : Nat → Switch Q ν σ
  | 0, _ => none
  | turns + 1, world =>
    match switch world with
    | none => none
    | some (.error stop, world) => some (.error stop, world)
    | some (.ok (), world) =>
      if world.present watched then some (.ok (), world) else untilPresent switch watched turns world

omit [TimerQueue (Action ν σ) Q] in
theorem untilSet_eq (switch : Switch Q ν σ) (id : EventId) (left : Nat) (world : World Q ν σ) :
    untilSet switch id left world = untilPresent switch (.event id) left world := by
  induction left generalizing world with
  | zero => rfl
  | succ left ih =>
    simp only [untilSet, untilPresent, ih]
    rfl

omit [TimerQueue (Action ν σ) Q] in
/-- A result that is ready has a value to answer with. -/
theorem untilReady_eq_some {switch : Switch Q ν σ} {id : ResultId} {left : Nat} {reply : Except (Stop HubError) ν}
    (ran : untilReady switch id left world = some (reply, after)) :
    (∃ stop, reply = .error stop ∧ untilPresent switch (.result id) left world = some (.error stop, after)) ∨
    ∃ value, reply = value.mapError .failed ∧ (after.result id).value = some value ∧
      untilPresent switch (.result id) left world = some (.ok (), after) := by
  induction left generalizing world with
  | zero => cases ran
  | succ left ih =>
    simp only [untilReady] at ran
    simp only [untilPresent]
    generalize switch world = switched at ran ⊢
    rcases switched with _ | ⟨stop | ⟨⟩, mid⟩
    · cases ran
    · obtain ⟨rfl, rfl⟩ := Prod.mk.inj (Option.some.inj ran)
      exact .inl ⟨stop, rfl, rfl⟩
    · dsimp only at ran ⊢
      split at ran
      next value ready =>
        obtain ⟨rfl, rfl⟩ := Prod.mk.inj (Option.some.inj ran)
        have present : mid.present (.result id) = true := congrArg Option.isSome ready
        exact .inr ⟨value, rfl, ready, if_pos present⟩
      next unready =>
        have absent : mid.present (.result id) = false := congrArg Option.isSome unready
        simp only [absent, Bool.false_eq_true, if_false]
        exact ih ran

omit [TimerQueue (Action ν σ) Q] in
theorem present_of_untilPresent {switch : Switch Q ν σ} {left : Nat}
    (ran : untilPresent switch watched left world = some (.ok (), after)) : after.present watched = true := by
  induction left generalizing world with
  | zero => cases ran
  | succ left ih =>
    simp only [untilPresent] at ran
    split at ran
    · cases ran
    · cases ran
    · split at ran
      next present => cases ran; exact present
      next => exact ih ran

/-- The callbacks that leave it there in the switches of a wait. -/
abbrev BringsUntil (turns : Nat) (watched : Watched) (left : Nat) : Meeting Q ν σ :=
  MeetsUntil (Run.switch turns) (guardedMeets (Brings watched turns)) (fun world => world.present watched) left

theorem Brings.present {next : World Q ν σ} (brings : Brings watched turns world next) :
    next.present watched = true := by
  induction brings with
  | now _ _ _ _ present => exact present
  | later _ _ ih => exact ih

theorem untilPresent_heeded {left : Nat} (attentive : Attentive watched world) (absent : world.present watched = false)
    {answer : Except (Stop HubError) Unit}
    (ran : untilPresent (Run.switch turns) watched left world = some (answer, after)) :
    Heeded watched (BringsUntil turns watched left world) answer after := by
  induction left generalizing world with
  | zero => cases ran
  | succ left ih =>
    simp only [untilPresent] at ran
    split at ran
    · cases ran
    next stop last switched =>
      obtain ⟨rfl, rfl⟩ := Prod.mk.inj (Option.some.inj ran)
      obtain ⟨kept, -, missed⟩ := switch_heeded attentive absent switched
      refine ⟨fun next met => ?_, nofun, missed⟩
      cases met with
      | within met => exact kept next met
      | again resumed => cases resumed.symm.trans switched
    next mid switched =>
      obtain ⟨kept, resumed, -⟩ := switch_heeded attentive absent switched
      have found := resumed rfl
      split at ran
      next present =>
        obtain ⟨rfl, rfl⟩ := Prod.mk.inj (Option.some.inj ran)
        rw [if_pos present] at found
        refine ⟨fun next met => ?_, fun _ => ?_, nofun⟩
        · cases met with
          | within met => exact kept next met
          | again resumed undone =>
            cases resumed.symm.trans switched
            exact Bool.noConfusion (undone.symm.trans present)
        · rw [if_pos present]
          exact found.imp fun _ met => .within met
      next undone =>
        rw [if_neg undone] at found
        have undone := Bool.eq_false_iff.mpr undone
        obtain ⟨kept', resumed', missed'⟩ := ih found undone ran
        refine ⟨fun next met => ?_, fun isOk => ?_, missed'⟩
        · cases met with
          | within met =>
            have left : mid = next.clearWoken := (kept next met).2
            have brought : mid.present watched = true := left ▸ met.2.present
            exact Bool.noConfusion (undone.symm.trans brought)
          | again resumed _ rest =>
            cases resumed.symm.trans switched
            exact kept' next rest
        · have last := resumed' isOk
          split
          next present =>
            rw [if_pos present] at last
            exact last.imp fun _ rest => .again switched undone rest
          next absent => rwa [if_neg absent] at last

end

/-- A wait that has moments began with nothing there, and they are the moments of its switches. -/
theorem meetsIn_waits {turns : Nat} {switch : Switch Q ν σ} {during : Meeting Q ν σ} {world moment : World Q ν σ}
    {α : Type} {asked : Request ν σ α} (met : MeetsIn turns switch during asked world moment) :
    match asked with
    | .wait id limit => (world.event id).isSet = false ∧ ∃ timeout started,
        world.startLimit limit = (.ok timeout, started) ∧
        MeetsUntil switch during (fun world => (world.event id).isSet) turns (started.addEventWaiter id) moment
    | .get id limit => (world.result id).isReady = false ∧ ∃ timeout started,
        world.startLimit limit = (.ok timeout, started) ∧
        MeetsUntil switch during (fun world => (world.result id).isReady) turns (started.addResultWaiter id) moment
    | _ => True := by
  cases met with
  | switch | sleep => trivial
  | wait unset start met => exact ⟨unset, _, _, start, met⟩
  | get unready start met => exact ⟨unready, _, _, start, met⟩

/-- The callbacks that leave it there during a request. -/
abbrev BringsIn (turns : Nat) {α : Type} (asked : Request ν σ α) (watched : Watched) : Meeting Q ν σ :=
  MeetsIn turns (Run.switch turns) (guardedMeets (Brings watched turns)) asked

/-- What a callback leaves there ends the wait before anything else fires. What is there at the end was there from the
beginning, or a callback left it there. -/
structure Heard (turns : Nat) {α : Type} (asked : Request ν σ α) (watched : Watched) (world after : World Q ν σ) :
    Prop where
  kept : ∀ next, BringsIn turns asked watched world next → after.present watched = true ∧
    Uneventful next.clearWoken after
  brought : after.present watched = true →
    world.present watched = true ∧ after = world ∨ ∃ next, BringsIn turns asked watched world next

section

variable {watched : Watched} {turns left : Nat} {α : Type} {asked : Request ν σ α} {world begun mid after : World Q ν σ}

theorem BringsUntil.present {next : World Q ν σ} (met : BringsUntil turns watched left world next) :
    next.present watched = true := by
  induction met with
  | within met => exact met.2.present
  | again _ _ _ ih => exact ih

theorem Heeded.heard {answer : Except (Stop HubError) Unit}
    (heeded : Heeded watched (BringsUntil turns watched left begun) answer mid)
    (met : ∀ next, BringsIn turns asked watched world next ↔ BringsUntil turns watched left begun next)
    (settled : Uneventful mid after) (stops : ∀ panic, answer ≠ .error (.panicked panic)) :
    Heard turns asked watched world after := by
  refine ⟨fun next brings => ?_, fun present => .inr ?_⟩
  · have untilThen := (met next).mp brings
    obtain ⟨-, rfl⟩ := heeded.kept next untilThen
    exact ⟨(settled.present watched).trans untilThen.present, settled⟩
  · have before : mid.present watched = true := (settled.present watched).symm.trans present
    cases answer with
    | error stop =>
      cases stop with
      | failed error => exact Bool.noConfusion (before.symm.trans (heeded.missed error rfl))
      | panicked panic => exact absurd rfl (stops panic)
    | ok =>
      have found := heeded.resumed rfl
      rw [if_pos before] at found
      exact found.imp fun next => (met next).mpr

/-- Whoever signs on for what is not there is attentive, and hears of it when it comes. -/
theorem signed_heard {limit : WaitLimit} {timeout : Option Timeout} {signed : World Q ν σ}
    {answer : Except (Stop HubError) Unit} (made : world.Made watched) (absent : world.present watched = false)
    (start : world.startLimit limit = (.ok timeout, begun)) (signing : Uneventful begun signed)
    (signedOn : World.Recounted watched (begun.waiters watched + 1) begun signed)
    (met : ∀ next, BringsIn turns asked watched world next ↔ BringsUntil turns watched left signed next)
    (switched : untilPresent (Run.switch turns) watched left signed = some (answer, mid))
    (settled : Uneventful mid after) (stops : ∀ panic, answer ≠ .error (.panicked panic)) :
    (answer = .ok () ↔ after.present watched = true) ∧ Heard turns asked watched world after := by
  have started := carries_steady.startLimit world limit
  have uneventful := carries_uneventful.startLimit world limit
  rw [start] at started uneventful
  have still : signed.present watched = false := ((uneventful.trans signing).present watched).trans absent
  have attentive : Attentive watched signed := {
    made := signedOn.made watched ((started watched).2 made).1
    awaited := signedOn.own.symm ▸ Nat.succ_pos _
    woken := fun present => Bool.noConfusion (present.symm.trans still) }
  have heeded := untilPresent_heeded attentive still switched
  refine ⟨⟨?_, fun present => ?_⟩, heeded.heard met settled stops⟩
  · rintro rfl
    exact (settled.present watched).trans (present_of_untilPresent switched)
  · rcases answer with (error | panic) | ⟨⟩
    · have missed := (settled.present watched).trans (heeded.missed error rfl)
      exact Bool.noConfusion (present.symm.trans missed)
    · exact absurd rfl (stops panic)
    · rfl

theorem wait_heard {id : EventId} {limit : WaitLimit} {reply : Except (Stop HubError) Waited}
    (made : world.Made (.event id)) (waited : Run.wait turns (Run.switch turns) id limit world = some (reply, after))
    (returns : ∀ panic, reply ≠ .error (.panicked panic)) :
    (reply = .ok .set ↔ (after.event id).isSet = true) ∧ Heard turns (.wait id limit) (.event id) world after := by
  unfold Run.wait at waited
  split at waited
  next isSet =>
    cases waited
    refine ⟨iff_of_true rfl isSet, fun next met => ?_, fun _ => .inl ⟨isSet, rfl⟩⟩
    exact Bool.noConfusion (isSet.symm.trans (meetsIn_waits met).1)
  next unset =>
    have unset := Bool.eq_false_iff.mpr unset
    split at waited
    next panic _ _ => cases waited; exact absurd rfl (returns panic)
    next timeout begun start =>
      have signing := signs_uneventful.addEventWaiter begun id
      have signedOn := begun.recounted_addEventWaiter id
      have met (next : World Q ν σ) : BringsIn turns (.wait id limit) (.event id) world next ↔
          BringsUntil turns (.event id) turns (begun.addEventWaiter id) next := by
        refine ⟨fun brings => ?_, .wait unset start⟩
        obtain ⟨-, _, _, started, met⟩ := meetsIn_waits brings
        cases started.symm.trans start
        exact met
      have ends (mid : World Q ν σ) : Uneventful mid ((mid.removeEventWaiter id).endLimit timeout) :=
        (signs_uneventful.removeEventWaiter mid id).trans (carries_uneventful.endLimit _ timeout)
      simp only [untilSet_eq] at waited
      split at waited
      · cases waited
      next panic _ _ => cases waited; exact absurd rfl (returns panic)
      next error mid switched =>
        obtain ⟨told, heard⟩ := signed_heard made unset start signing signedOn met switched (ends mid) nofun
        have missed := told.not.mp nofun
        split at waited <;> cases waited <;> exact ⟨iff_of_false nofun missed, heard⟩
      next mid switched =>
        obtain ⟨told, heard⟩ := signed_heard made unset start signing signedOn met switched (ends mid) nofun
        cases waited
        exact ⟨iff_of_true rfl (told.mp rfl), heard⟩

/-- The same of a result that is waited for. -/
theorem get_heard {id : ResultId} {limit : WaitLimit} {reply : Except (Stop HubError) ν}
    (made : world.Made (.result id)) (got : Run.get turns (Run.switch turns) id limit world = some (reply, after))
    (returns : ∀ panic, reply ≠ .error (.panicked panic)) :
    (∀ value, (after.result id).value = some value → reply = value.mapError .failed) ∧
      ((after.result id).value = none → ∃ error, reply = .error (.failed error)) ∧
      Heard turns (.get id limit) (.result id) world after := by
  unfold Run.get at got
  split at got
  next value stored =>
    have ready : (world.result id).isReady = true := congrArg Option.isSome stored
    obtain ⟨rfl, rfl⟩ := Prod.mk.inj (Option.some.inj got)
    refine ⟨fun other same => ?_, fun nothing => ?_, fun next met => ?_, fun _ => .inl ⟨ready, rfl⟩⟩
    · rw [Option.some.inj (stored.symm.trans same)]
    · cases stored.symm.trans nothing
    · exact Bool.noConfusion (ready.symm.trans (meetsIn_waits met).1)
  next nothing =>
    have unready : (world.result id).isReady = false := congrArg Option.isSome nothing
    split at got
    next panic _ _ => cases got; exact absurd rfl (returns panic)
    next timeout begun start =>
      have signing := signs_uneventful.addResultWaiter begun id
      have signedOn := begun.recounted_addResultWaiter id
      have met (next : World Q ν σ) : BringsIn turns (.get id limit) (.result id) world next ↔
          BringsUntil turns (.result id) turns (begun.addResultWaiter id) next := by
        refine ⟨fun brings => ?_, .get unready start⟩
        obtain ⟨-, _, _, started, met⟩ := meetsIn_waits brings
        cases started.symm.trans start
        exact met
      have ends (mid : World Q ν σ) : Uneventful mid ((mid.removeResultWaiter id).endLimit timeout) :=
        (signs_uneventful.removeResultWaiter mid id).trans (carries_uneventful.endLimit _ timeout)
      split at got
      · cases got
      next panic _ _ => cases got; exact absurd rfl (returns panic)
      next mid _ switched =>
        obtain ⟨rfl, rfl⟩ := Prod.mk.inj (Option.some.inj got)
        obtain ⟨stop | panic, rfl, interrupted⟩ | ⟨value, rfl, stored, resumed⟩ := untilReady_eq_some switched
        · obtain ⟨told, heard⟩ := signed_heard made unready start signing signedOn met interrupted (ends mid) nofun
          refine ⟨fun value stored => ?_, fun _ => ⟨stop, rfl⟩, heard⟩
          exact absurd (congrArg Option.isSome stored) (told.not.mp nofun)
        · exact absurd rfl (returns panic)
        · obtain ⟨-, heard⟩ := signed_heard made unready start signing signedOn met resumed (ends mid) nofun
          have last := ((ends mid).values id).trans stored
          refine ⟨fun other same => ?_, fun nothing => ?_, heard⟩
          · rw [Option.some.inj (last.symm.trans same)]
          · cases last.symm.trans nothing

end

end Run

/-- Whatever callbacks do, a wait that returns says that the event is set if and only if it is, a result that is ready
when a task comes back from it is answered with what it then holds, and no other timer fires in between. -/
theorem Bench.waits_answered (world : Bench ν σ) (turns : Nat) (limit : WaitLimit) :
    (∀ id reply after, world.Made (.event id) →
      Run.wait turns (Run.switch turns) id limit world = some (reply, after) →
      (∀ panic, reply ≠ .error (.panicked panic)) →
      (reply = .ok .set ↔ (after.event id).isSet = true) ∧
        Run.Heard turns (.wait id limit) (.event id) world after) ∧
    (∀ id reply after, world.Made (.result id) →
      Run.get turns (Run.switch turns) id limit world = some (reply, after) →
      (∀ panic, reply ≠ .error (.panicked panic)) →
      (∀ value, (after.result id).value = some value → reply = value.mapError .failed) ∧
        ((after.result id).value = none → ∃ error, reply = .error (.failed error)) ∧
        Run.Heard turns (.get id limit) (.result id) world after) :=
  ⟨fun _ _ _ => Run.wait_heard, fun _ _ _ => Run.get_heard⟩

/-- The event flickers, and is then set at the instant an interrupt is due. The result comes later. -/
def flickering : Program Unit Unit Unit := do
  let event ← Program.ask .newEvent
  let result ← Program.ask .newResult
  let _ ← Program.scheduleCall 1 "flicker" do
    Program.ask (.setEvent event)
    Program.ask (.clearEvent event)
    return .ok ()
  let _ ← Program.scheduleCall 2 "setter" (Task.ask (.setEvent event))
  let _ ← Program.ask (.hub (.schedule 2 (.raise .loopExit)))
  let _ ← Program.scheduleCall 3 "completer" (Task.ask (.complete result (.ok ())))

theorem flickering_answered : ∃ world set interrupted ready : Bench Unit Unit,
    flickering.run 9 (Bench.fresh .direct ()) = some ((), world) ∧
    Run.wait 9 (Run.switch 9) ⟨0⟩ .never world = some (.ok .set, set) ∧
    Run.Heard 9 (.wait ⟨0⟩ .never) (.event ⟨0⟩) world set ∧
    (∃ error, Run.get 9 (Run.switch 9) ⟨0⟩ .never set = some (.error (.failed error), interrupted)) ∧
    Run.get 9 (Run.switch 9) ⟨0⟩ .never interrupted = some (.ok (), ready) ∧
    Run.Heard 9 (.get ⟨0⟩ .never) (.result ⟨0⟩) interrupted ready := by
  have runs : ((flickering.run 9 (Bench.fresh .direct ())).bind fun begun =>
      (Run.wait 9 (Run.switch 9) ⟨0⟩ .never begun.2).bind fun waited =>
        (Run.get 9 (Run.switch 9) ⟨0⟩ .never waited.2).bind fun failed =>
          (Run.get 9 (Run.switch 9) ⟨0⟩ .never failed.2).map fun got =>
            ([begun.2.eventsMade, waited.2.resultsMade, failed.2.resultsMade],
              [waited.1.isOk, (waited.2.event ⟨0⟩).isSet, got.1.isOk], failed.1)) =
      some ([1, 1, 1], [true, true, true], .error (.failed .loopExit)) := by decide +kernel
  obtain ⟨⟨⟨⟩, world⟩, ran, runs⟩ := Option.bind_eq_some_iff.mp runs
  obtain ⟨⟨waited, set⟩, waits, runs⟩ := Option.bind_eq_some_iff.mp runs
  obtain ⟨⟨failed, interrupted⟩, fails, runs⟩ := Option.bind_eq_some_iff.mp runs
  obtain ⟨⟨got, ready⟩, gets, facts⟩ := Option.map_eq_some_iff.mp runs
  simp only [Prod.mk.injEq, List.cons.injEq, and_true] at facts
  obtain ⟨⟨event, _, result⟩, ⟨isOk, isSet, isOk'⟩, rfl⟩ := facts
  have made : world.Made (.event ⟨0⟩) := Nat.lt_of_lt_of_eq Nat.zero_lt_one event.symm
  have stillMade : interrupted.Made (.result ⟨0⟩) := Nat.lt_of_lt_of_eq Nat.zero_lt_one result.symm
  obtain ⟨sets, heard⟩ := (Bench.waits_answered world 9 .never).1 ⟨0⟩ waited set made waits
    fun panic same => by rw [same] at isOk; cases isOk
  obtain ⟨-, -, heard'⟩ := (Bench.waits_answered interrupted 9 .never).2 ⟨0⟩ got ready stillMade gets
    fun panic same => by rw [same] at isOk'; cases isOk'
  obtain rfl := sets.mpr isSet
  refine ⟨world, set, interrupted, ready, ran, waits, heard, ⟨_, fails⟩, ?_, heard'⟩
  cases got with
  | ok => exact gets
  | error => cases isOk'

end Testbench
