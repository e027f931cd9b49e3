import Mathlib.Data.List.Nodup
import Testbench.Proofs.GuardCustody

/-! The one interrupt of a guard. Its timer fires when it is due or goes when the guarded task has ended. It fires in a
switch of the task, which then fails with the guard's error: the task is interrupted there, once, and not before its time
is over. -/

namespace Testbench

open LawfulQueue (armed)
open World (Guarding HasFired Recorded)

variable {ν σ : Type} {Q : Type 1} [TimerQueue (Action ν σ) Q]

/-- The error in an outcome. -/
def error? {α : Type} : Except (Stop HubError) α → Option HubError
  | .error (.failed error) => some error
  | _ => none

/-- The error in the answer to a request. -/
def Request.error? {α : Type} : Request ν σ α → α → Option HubError
  | .switch, answer => Testbench.error? answer
  | .sleep _, answer => Testbench.error? answer
  | .wait .., answer => Testbench.error? answer
  | .get .., answer => Testbench.error? answer
  | .readResult _, answer => answer.value.bind fun value => Testbench.error? (value.mapError .failed)
  | _, _ => none

theorem error?_eq_some {α : Type} {answer : Except (Stop HubError) α} {error : HubError}
    (told : error? answer = some error) : answer = .error (.failed error) := by
  unfold error? at told
  split at told
  · cases told; rfl
  · cases told

theorem error?_mapError {α : Type} {value : Except HubError α} {error : HubError}
    (told : error? (value.mapError .failed) = some error) : value = .error error := by
  cases value with
  | ok => cases told
  | error => cases told; rfl

/-- The error a turn ends the switch with. -/
def Run.Turn.error? : Run.Turn Q ν σ → Option HubError
  | .leaves ending _ => Testbench.error? ending.answer
  | .stays _ => none

/-- A switch that fails with the guard's error when its time is over. -/
def Strikes (switch : Run.Switch Q ν σ) (guard : Timeout) (alarm : Alarm) (begun : World Q ν σ) : Prop :=
  ∃ after, switch begun = some (.error (.failed guard.error), after) ∧ alarm.deadline ≤ after.clock

/-- A switch of the request fails with the guard's error when its time is over. -/
abbrev StruckIn (turns : Nat) (guard : Timeout) (alarm : Alarm) {β : Type} (asked : Request ν σ β) (world : World Q ν σ) :
    Prop :=
  ∃ begun, Run.MeetsIn turns (Run.switch turns) Eq asked world begun ∧ Strikes (Run.switch turns) guard alarm begun

/-- A switch of a wait that has begun does so. -/
abbrev StruckUntil (turns : Nat) (guard : Timeout) (alarm : Alarm) (done : World Q ν σ → Bool) (left : Nat)
    (world : World Q ν σ) : Prop :=
  ∃ begun, Run.MeetsUntil (Run.switch turns) Eq done left world begun ∧ Strikes (Run.switch turns) guard alarm begun

/-- How a guard comes into something that ends with an error or without one: its timer fires there, and that is the
error, or it does not. If nothing else has the guard's error, there is no other way to come by it. -/
inductive Told (alone : Prop) (guard : Timeout) (alarm : Alarm) (strikes : Prop) (world after : World Q ν σ)
    (error : Option HubError) : Prop where
  | struck (unfired : ¬ HasFired alarm world) (fired : HasFired alarm after) (told : error = some guard.error)
      (strikes : strikes)
  | spared (same : HasFired alarm after ↔ HasFired alarm world) (silent : alone → error ≠ some guard.error)

namespace Told

variable {alone strikes strikes' : Prop} {guard : Timeout} {alarm : Alarm} {before world after later : World Q ν σ}
  {error error' : Option HubError}

omit [TimerQueue (Action ν σ) Q]

theorem imp (told : Told alone guard alarm strikes world after error)
    (implies : error = some guard.error → strikes → strikes') : Told alone guard alarm strikes' world after error := by
  cases told with
  | struck unfired fired isError struck => exact .struck unfired fired isError (implies isError struck)
  | spared same silent => exact .spared same silent

/-- What goes before and after fires nothing. -/
theorem within (told : Told alone guard alarm strikes world after error)
    (first : HasFired alarm world ↔ HasFired alarm before) (last : HasFired alarm later ↔ HasFired alarm after)
    (heard : error = some guard.error ↔ error' = some guard.error) :
    Told alone guard alarm strikes before later error' := by
  cases told with
  | struck unfired fired isError struck =>
    exact .struck (unfired ∘ first.mpr) (last.mpr fired) (heard.mp isError) struck
  | spared same silent => exact .spared (last.trans (same.trans first)) fun isAlone => silent isAlone ∘ heard.mpr

end Told

namespace World

variable [LawfulQueue Q] {world rest after : World Q ν σ}

namespace Guarding

variable {alone : Prop} {guard : Timeout} {alarm : Alarm}

theorem scheduled (guarding : Guarding alone guard alarm world) : alarm ∈ world.scheduled := by
  obtain isArmed | ⟨firing, member, rfl⟩ := guarding.there
  · obtain ⟨dropped, -, onto⟩ := guarding.recorded.fates
    exact onto.mem_iff.mpr (List.mem_append_left _ (List.mem_map_of_mem isArmed))
  · exact guarding.recorded.fired_scheduled firing member

/-- While the timer is armed, it is there to raise the guard's error. -/
theorem armed_eq (guarding : Guarding alone guard alarm world) {held : Alarm × Action ν σ}
    (member : held ∈ armed world.hub.queue) (same : held.1.id = alarm.id) :
    ¬ HasFired alarm world ∧ held = (alarm, .raise guard.error) := by
  have distinct := List.pairwise_map.mpr (LawfulQueue.distinct guarding.recorded.sound)
  obtain ⟨dropped, -, onto⟩ := guarding.recorded.fates
  have isAlarm : held.1 = alarm := by
    have scheduled := onto.mem_iff.mpr (List.mem_append_left _ (List.mem_map_of_mem member))
    exact List.inj_on_of_nodup_map (List.pairwise_map.mpr guarding.recorded.distinct) scheduled guarding.scheduled same
  have unfired : ¬ HasFired alarm world := by
    rintro ⟨firing, fired, rfl⟩
    have ahead := guarding.recorded.ahead firing fired held member
    rw [isAlarm] at ahead
    exact ahead.2 (Alarm.le_refl _)
  exact ⟨unfired, List.inj_on_of_nodup_map distinct member (guarding.there.resolve_right unfired) same⟩

/-- The timer that fires is the guard's own, or it is none of the guard's business. -/
theorem fires (guarding : Guarding alone guard alarm world) {fires : Alarm} {action : Action ν σ}
    (found : world.takeNext = (some (fires, action), rest)) :
    (¬ HasFired alarm world ∧ fires = alarm ∧ action = .raise guard.error ∧ HasFired alarm (rest.arrive fires)) ∨
      ((HasFired alarm (rest.arrive fires) ↔ HasFired alarm world) ∧ (alone → action ≠ .raise guard.error)) := by
  obtain ⟨-, onto, -⟩ := takeNext_some guarding.recorded.sound found
  have member := onto.mem_iff.mpr (List.mem_cons_self ..)
  have fired := hasFired_arrive rest fires alarm
  have still : HasFired alarm rest ↔ HasFired alarm world := by
    obtain ⟨-, rfl⟩ := Prod.mk.inj found
    exact .rfl
  by_cases same : fires.id = alarm.id
  · obtain ⟨unfired, isGuard⟩ := guarding.armed_eq member same
    cases isGuard
    exact .inl ⟨unfired, rfl, rfl, fired.mpr (.inl rfl)⟩
  · have other : fires ≠ alarm := fun isAlarm => same (congrArg Alarm.id isAlarm)
    exact .inr ⟨by rw [fired, still, or_iff_right other],
      fun isAlone raised => same (guarding.raises isAlone _ member raised)⟩

end Guarding

end World

namespace Run

/-! Callbacks fire nothing, and neither does what cannot switch. -/

theorem firings_callback {turns : Nat} {loop : Switch Q ν σ} {callback : Callback ν σ} {world after : World Q ν σ}
    {outcome : Except (Stop HubError) Unit} (inside : world.hub.inCallback = true)
    (ran : program turns (guarded loop) callback world = some (outcome, after)) : after.firings = world.firings :=
  ((carries_heeds (.event ⟨0⟩)).callback (carriesCallbacks_heeds _) callback.asks_anything inside ran).1

theorem firings_aside {turns : Nat} {switch : Switch Q ν σ} {β : Type} {request : Request ν σ β}
    (other : request.ofTimers = false) {world after : World Q ν σ} {reply : β}
    (answered : answer turns switch request world = some (reply, after)) : after.firings = world.firings := by
  have heeds : Heeds (.event ⟨0⟩) [] world after := heeds_answer other answered
  exact heeds.1

theorem firings_atOnce {turns : Nat} {switch : Switch Q ν σ} {β : Type} {request : Request ν σ β}
    (stays : request.maySwitch = false) {world after : World Q ν σ} {reply : β}
    (answered : answer turns switch request world = some (reply, after)) : after.firings = world.firings := by
  have passes {run : β × World Q ν σ} (uneventful : World.Uneventful world run.2) (same : some run = some (reply, after)) :
      after.firings = world.firings := by
    cases same
    exact uneventful.firings
  cases request with
  | switch | sleep | wait | get => cases stays
  | newTimeout duration => cases answered; rfl
  | startTimeout timeout => exact passes (carries_uneventful.startTimeout world timeout) answered
  | cancelTimeout timeout => exact passes (carries_uneventful.cancelTimeout world timeout) answered
  | hub request =>
    cases request with
    | schedule delay signal => exact passes (carries_uneventful.schedule world delay signal) answered
    | cancel timer => exact passes (carries_uneventful.cancel world timer) answered
    | _ => exact firings_aside rfl answered
  | _ => exact firings_aside rfl answered

section

variable [LawfulQueue Q] {alone : Prop} {guard : Timeout} {alarm : Alarm} {turns : Nat} {world after : World Q ν σ}

theorem turn_told (guarding : Guarding alone guard alarm world) (plain : guard.exception = none) {taken : Turn Q ν σ}
    (ran : turn turns world = some taken) :
    Told alone guard alarm (alarm.deadline ≤ taken.world.clock) world taken.world taken.error? := by
  unfold turn at ran
  split at ran
  · cases ran
    exact .spared .rfl fun _ => nofun
  split at ran
  next found =>
    cases ran
    obtain ⟨-, rfl⟩ := Prod.mk.inj found
    refine .spared .rfl fun _ same => ?_
    simp only [Timeout.error, plain] at same
    cases same
  next fires action rest found =>
    have reached : fires.deadline ≤ (rest.arrive fires).clock := Nat.le_max_right _ _
    obtain ⟨unfired, rfl, rfl, fired⟩ | ⟨same, other⟩ := guarding.fires found
    · cases ran
      exact .struck unfired fired rfl reached
    · cases action with
      | wake => cases ran; exact .spared same fun _ => nofun
      | raise error =>
        cases ran
        exact .spared same fun isAlone told => other isAlone (congrArg Action.raise (Option.some.inj told))
      | call label callback =>
        obtain ⟨⟨outcome, ended⟩, called, rfl⟩ := Option.map_eq_some_iff.mp ran
        have still := (World.hasFired_congr (firings_callback rfl called) alarm).trans same
        rcases outcome with (error | panic) | _ <;> exact .spared still fun _ => nofun

theorem loop_told (guarding : Guarding alone guard alarm world) (plain : guard.exception = none)
    (calm : loopCalm (Request.Respects alone guard alarm.id) turns world)
    {answer : Except (Stop HubError) Unit} (ran : loop turns world = some (answer, after)) :
    Told alone guard alarm (alarm.deadline ≤ after.clock) world after (error? answer) := by
  induction turns generalizing world with
  | zero => cases ran
  | succ turns ih =>
    have keeps : Keeps _ (Guarding alone guard alarm : World Q ν σ → Prop) := Guarding.keeps plain
    rw [loop_succ] at ran
    split at ran
    · cases ran
    next taken =>
      cases ran
      exact turn_told guarding plain taken
    next next taken =>
      have first := turn_told guarding plain taken
      have kept := keeps.turn (keeps.loop turns) calm guarding taken
      cases first with
      | struck _ _ told => cases told
      | spared same => exact (ih kept (calm.2 next taken) ran).within same .rfl .rfl

theorem switch_told (guarding : Guarding alone guard alarm world) (plain : guard.exception = none)
    (calm : guardedCalm (loopCalm (Request.Respects alone guard alarm.id) turns) world)
    {answer : Except (Stop HubError) Unit} (ran : switch turns world = some (answer, after)) :
    Told alone guard alarm (Strikes (switch turns) guard alarm world) world after (error? answer) := by
  have began : HasFired alarm world.beginSwitch ↔ HasFired alarm world :=
    World.hasFired_congr (World.Uneventful.beginSwitch world).firings alarm
  have ran' := ran
  simp only [switch, guarded] at ran
  split at ran
  · cases ran
    refine .spared began fun _ same => ?_
    simp only [Timeout.error, plain] at same
    cases same
  next outside =>
    have told := loop_told guarding.beginSwitch plain (calm (Bool.eq_false_iff.mpr outside)) ran
    refine (told.within began .rfl .rfl).imp fun isError reached => ⟨after, ?_, reached⟩
    rw [ran', error?_eq_some isError]

/-- The switch is begun in a run that respects the guard. -/
abbrev CalmSwitch (alone : Prop) (guard : Timeout) (alarm : Alarm) (turns : Nat) (begun : World Q ν σ) : Prop :=
  guardedCalm (loopCalm (Request.Respects alone guard alarm.id) turns) begun

theorem keptBy_switch (plain : guard.exception = none) {begun : World Q ν σ}
    (calm : CalmSwitch alone guard alarm turns begun) : KeptBy (Guarding alone guard alarm) (switch turns) begun :=
  (Guarding.keeps plain).guarded ((Guarding.keeps plain).loop turns) begun calm

theorem untilPresent_told (watched : Watched) {left : Nat} (guarding : Guarding alone guard alarm world)
    (plain : guard.exception = none)
    (calm : ∀ begun, MeetsUntil (switch turns) Eq (fun world => world.present watched) left world begun →
      CalmSwitch alone guard alarm turns begun) {answer : Except (Stop HubError) Unit}
    (ran : untilPresent (switch turns) watched left world = some (answer, after)) :
    Told alone guard alarm (StruckUntil turns guard alarm (fun world => world.present watched) left world) world after
      (error? answer) := by
  induction left generalizing world with
  | zero => cases ran
  | succ left ih =>
    have first := calm world (.within rfl)
    simp only [untilPresent] at ran
    split at ran
    · cases ran
    next switched =>
      cases ran
      exact (switch_told guarding plain first switched).imp fun _ strikes => ⟨world, .within rfl, strikes⟩
    next mid switched =>
      have told := switch_told guarding plain first switched
      split at ran
      · cases ran
        exact told.imp fun _ strikes => ⟨world, .within rfl, strikes⟩
      next undone =>
        have absent := Bool.eq_false_iff.mpr undone
        have kept := keptBy_switch plain first guarding _ _ switched
        cases told with
        | struck _ _ isError => cases isError
        | spared same =>
          have later := ih kept (fun begun met => calm begun (.again switched absent met)) ran
          exact (later.within same .rfl .rfl).imp fun _ => Exists.imp fun _ => And.imp_left (.again switched absent)

/-- A result is handed over without the guard's error, unless the guard told it. -/
theorem untilReady_told {id : ResultId} {left : Nat} (guarding : Guarding alone guard alarm world)
    (plain : guard.exception = none)
    (calm : ∀ begun, MeetsUntil (switch turns) Eq (fun world => (world.result id).isReady) left world begun →
      CalmSwitch alone guard alarm turns begun) {answer : Except (Stop HubError) ν}
    (ran : untilReady (switch turns) id left world = some (answer, after)) :
    Told alone guard alarm (StruckUntil turns guard alarm (fun world => (world.result id).isReady) left world) world after
      (error? answer) := by
  have kept := Keeps.untilReady guarding (fun begun met => keptBy_switch plain (calm begun met)) ran
  obtain ⟨stop, rfl, present⟩ | ⟨value, rfl, ready, present⟩ := untilReady_eq_some ran
  · have told := untilPresent_told (.result id) guarding plain calm present
    exact told.within .rfl .rfl (by cases stop <;> rfl)
  · have told := untilPresent_told (.result id) guarding plain calm present
    cases told with
    | struck _ _ isError => cases isError
    | spared same =>
      refine .spared same fun isAlone isError => kept.results isAlone id ?_
      exact ready.trans (congrArg some (error?_mapError isError))

omit [LawfulQueue Q] in
/-- A wait fires nothing but in its switches. -/
theorem told_limited {strikes : Prop} {limit : WaitLimit} {timeout : Option Timeout} {begun signed mid off : World Q ν σ}
    {error error' : Option HubError} (told : Told alone guard alarm strikes signed mid error)
    (start : world.startLimit limit = (.ok timeout, begun)) (on : World.Uneventful begun signed)
    (signedOff : World.Uneventful mid off) (heard : error = some guard.error ↔ error' = some guard.error) :
    Told alone guard alarm strikes world (off.endLimit timeout) error' := by
  have started := carries_uneventful.startLimit world limit
  rw [start] at started
  have ended := carries_uneventful.endLimit off timeout
  refine told.within (World.hasFired_congr ?_ alarm) (World.hasFired_congr ?_ alarm) heard
  · exact (started.trans on).firings
  · exact (signedOff.trans ended).firings

theorem wait_told {id : EventId} {limit : WaitLimit} (guarding : Guarding alone guard alarm world)
    (plain : guard.exception = none) (other : ∀ timeout, limit = .under timeout → timeout.id ≠ guard.id)
    (calm : ∀ begun, MeetsIn turns (switch turns) Eq (.wait id limit) world begun →
      CalmSwitch alone guard alarm turns begun)
    {reply : Except (Stop HubError) Waited} (waited : wait turns (switch turns) id limit world = some (reply, after)) :
    Told alone guard alarm (StruckIn turns guard alarm (.wait id limit) world) world after (error? reply) := by
  have started := guarding.startLimit plain other
  have uneventful := carries_uneventful.startLimit world limit
  unfold wait at waited
  split at waited
  · cases waited
    exact .spared .rfl fun _ => nofun
  next isUnset =>
    have unset := Bool.eq_false_iff.mpr isUnset
    split at waited
    next answered =>
      cases waited
      rw [answered] at uneventful
      exact .spared (World.hasFired_congr uneventful.firings alarm) fun _ => nofun
    next timeout begun answered =>
      rw [answered] at started
      have signed : Guarding alone guard alarm (begun.addEventWaiter id) :=
        (Guarding.keeps plain).addEventWaiter id started
      have on : World.Uneventful begun (begun.addEventWaiter id) := signs_uneventful.addEventWaiter begun id
      have through {answer : Except (Stop HubError) Unit} {mid : World Q ν σ}
          (ran : untilSet (switch turns) id turns (begun.addEventWaiter id) = some (answer, mid)) :
          Told alone guard alarm (StruckIn turns guard alarm (.wait id limit) world) (begun.addEventWaiter id) mid
            (error? answer) := by
        rw [untilSet_eq] at ran
        have told := untilPresent_told (.event id) signed plain (fun begun met => calm begun (.wait unset answered met)) ran
        exact told.imp fun _ => Exists.imp fun _ => And.imp_left (.wait unset answered)
      split at waited
      · cases waited
      next ran => cases waited; exact told_limited (through ran) answered on (.aside rfl rfl rfl rfl) .rfl
      next error mid ran =>
        have off : World.Uneventful mid (mid.removeEventWaiter id) := signs_uneventful.removeEventWaiter mid id
        dsimp only at waited
        split at waited
        next elapsed =>
          cases waited
          refine told_limited (through ran) answered on off ⟨fun isError => ?_, nofun⟩
          -- The wait's own timeout is not the guard.
          cases Option.some.inj isError
          cases own : timeout with
          | none => rw [own] at elapsed; cases elapsed
          | some own' =>
            rw [own] at elapsed
            simp only [Option.any_some, Timeout.elapsedIn, Timeout.error, plain, beq_iff_eq] at elapsed
            have isLimit := (World.startLimit_own answered).symm.trans own
            exact absurd elapsed.symm (guarding.own_ne other isLimit)
        next => cases waited; exact told_limited (through ran) answered on off .rfl
      next mid ran =>
        cases waited
        exact told_limited (through ran) answered on (signs_uneventful.removeEventWaiter mid id) .rfl

theorem get_told {id : ResultId} {limit : WaitLimit} (guarding : Guarding alone guard alarm world)
    (plain : guard.exception = none) (other : ∀ timeout, limit = .under timeout → timeout.id ≠ guard.id)
    (calm : ∀ begun, MeetsIn turns (switch turns) Eq (.get id limit) world begun →
      CalmSwitch alone guard alarm turns begun)
    {reply : Except (Stop HubError) ν} (got : get turns (switch turns) id limit world = some (reply, after)) :
    Told alone guard alarm (StruckIn turns guard alarm (.get id limit) world) world after (error? reply) := by
  have started := guarding.startLimit plain other
  have uneventful := carries_uneventful.startLimit world limit
  unfold get at got
  split at got
  next value ready =>
    cases got
    exact .spared .rfl fun isAlone isError =>
      guarding.results isAlone id (ready.trans (congrArg some (error?_mapError isError)))
  next missing =>
    have unready : (world.result id).isReady = false := congrArg Option.isSome missing
    split at got
    next answered =>
      cases got
      rw [answered] at uneventful
      exact .spared (World.hasFired_congr uneventful.firings alarm) fun _ => nofun
    next timeout begun answered =>
      rw [answered] at started
      have signed : Guarding alone guard alarm (begun.addResultWaiter id) :=
        (Guarding.keeps plain).addResultWaiter id started
      have on : World.Uneventful begun (begun.addResultWaiter id) := signs_uneventful.addResultWaiter begun id
      have through {answer : Except (Stop HubError) ν} {mid : World Q ν σ}
          (ran : untilReady (switch turns) id turns (begun.addResultWaiter id) = some (answer, mid)) :
          Told alone guard alarm (StruckIn turns guard alarm (.get id limit) world) (begun.addResultWaiter id) mid
            (error? answer) := by
        have told := untilReady_told signed plain (fun begun met => calm begun (.get unready answered met)) ran
        exact told.imp fun _ => Exists.imp fun _ => And.imp_left (.get unready answered)
      split at got
      · cases got
      next ran => cases got; exact told_limited (through ran) answered on (.aside rfl rfl rfl rfl) .rfl
      next mid _ ran =>
        cases got
        exact told_limited (through ran) answered on (signs_uneventful.removeResultWaiter mid id) .rfl

theorem sleep_told {delay : Nat} (guarding : Guarding alone guard alarm world) (plain : guard.exception = none)
    (calm : ∀ begun, MeetsIn turns (switch turns) Eq (.sleep delay) world begun →
      CalmSwitch alone guard alarm turns begun)
    {reply : Except (Stop HubError) Unit} (slept : sleep (switch turns) delay world = some (reply, after)) :
    Told alone guard alarm (StruckIn turns guard alarm (.sleep delay) world) world after (error? reply) := by
  have scheduled : Guarding alone guard alarm (world.schedule delay .wake).2 := guarding.schedule delay fun _ => nofun
  have uneventful := uneventful_schedule world delay .wake
  unfold sleep at slept
  split at slept
  next answered =>
    cases slept
    rw [answered] at uneventful
    exact .spared (World.hasFired_congr uneventful.firings alarm) fun _ => nofun
  next timer armed answered =>
    rw [answered] at scheduled uneventful
    have began := World.hasFired_congr uneventful.firings alarm
    have through {answer : Except (Stop HubError) Unit} {mid : World Q ν σ}
        (switched : switch turns armed = some (answer, mid)) :
        Told alone guard alarm (StruckIn turns guard alarm (.sleep delay) world) armed mid (error? answer) :=
      (switch_told scheduled plain (calm armed (.sleep answered rfl)) switched).imp fun _ strikes =>
        ⟨armed, .sleep answered rfl, strikes⟩
    split at slept
    · cases slept
    next switched => cases slept; exact (through switched).within began .rfl .rfl
    next mid _ switched =>
      cases slept
      have ended := (carries_uneventful.cancel mid timer).firings
      exact (through switched).within began (World.hasFired_congr ended alarm) .rfl

/-- The guard's error is told by the timer, in a switch of the request. -/
theorem answer_told {β : Type} {asked : Request ν σ β} (guarding : Guarding alone guard alarm world)
    (plain : guard.exception = none) (respects : asked.Respects alone guard alarm.id)
    (calm : ∀ begun, MeetsIn turns (switch turns) Eq asked world begun → CalmSwitch alone guard alarm turns begun)
    {reply : β} (answered : answer turns (switch turns) asked world = some (reply, after)) :
    Told alone guard alarm (StruckIn turns guard alarm asked world) world after (asked.error? reply) := by
  cases asked with
  | switch =>
    have told := switch_told guarding plain (calm world (.switch rfl)) answered
    exact told.imp fun _ strikes => ⟨world, .switch rfl, strikes⟩
  | sleep delay => exact sleep_told guarding plain calm answered
  | wait id limit =>
    exact wait_told guarding plain (fun _ under same => by subst under; exact respects.unnamed same) calm answered
  | get id limit =>
    exact get_told guarding plain (fun _ under same => by subst under; exact respects.unnamed same) calm answered
  | readResult id =>
    cases answered
    refine .spared .rfl fun isAlone isError => ?_
    obtain ⟨value, ready, told⟩ := Option.bind_eq_some_iff.mp isError
    exact guarding.results isAlone id (ready.trans (congrArg some (error?_mapError told)))
  | _ => exact .spared (World.hasFired_congr (firings_atOnce rfl answered) alarm) fun _ => nofun

end

end Run

/-- The time of the guard is over, and nothing keeps its timer from firing. -/
structure Overdue [LawfulQueue Q] (alarm : Alarm) (moment : World Q ν σ) : Prop where
  outside : moment.hub.inCallback = false
  unwoken : moment.hub.woken = false
  late : alarm.deadline ≤ moment.clock
  isArmed : moment.isArmed alarm.id = true
  first : ∀ held ∈ armed moment.hub.queue, ¬ held.1 < alarm

/-- What the guard's timer does to a program that runs from where the timer was armed. -/
structure Interrupts [LawfulQueue Q] (turns : Nat) (guard : Timeout) (alarm : Alarm) {α : Type} (program : Program ν σ α)
    (begun : World Q ν σ) : Prop where
  once : ∀ moment, program.Meets turns begun moment → (moment.firings.map (·.alarm)).count alarm ≤ 1
  strikes : ∀ {β : Type} (asked : Request ν σ β) (next : β → Program ν σ α) (before : World Q ν σ) (reply : β)
    (after : World Q ν σ), Run.Reaches turns (Run.switch turns) program begun (.request asked next) before →
      Run.answer turns (Run.switch turns) asked before = some (reply, after) →
        ¬ HasFired alarm before → HasFired alarm after →
          asked.error? reply = some guard.error ∧ StruckIn turns guard alarm asked before
  overdue : ∀ moment, program.Meets turns begun moment ∨ Run.Switches turns (Run.switch turns) program begun moment →
    Overdue alarm moment → ∀ left, ∃ after,
      Run.switch (left + 1) moment = some (.error (.failed guard.error), after) ∧ after.clock = moment.clock
  disarmed : ∀ value ended, program.run turns begun = some (value, ended) →
    (ended.endLimit (some guard)).isArmed alarm.id = false ∧
      (armed (ended.endLimit (some guard)).hub.queue).Perm ((armed ended.hub.queue).filter (·.1.id ≠ alarm.id))

/-- Nobody has the error yet. -/
structure Unheard [LawfulQueue Q] (error : HubError) (world : World Q ν σ) : Prop where
  raises : ∀ held ∈ armed world.hub.queue, held.2 ≠ .raise error
  results : ∀ id, (world.result id).value ≠ some (.error error)

/-- The guard's error comes to a program in one of its switches, and once at most. -/
structure HeardOnce (turns : Nat) (guard : Timeout) (alarm : Alarm) {α : Type} (program : Program ν σ α)
    (begun : World Q ν σ) : Prop where
  strikes : ∀ {β : Type} (asked : Request ν σ β) (next : β → Program ν σ α) (before : World Q ν σ) (reply : β)
    (after : World Q ν σ), Run.Reaches turns (Run.switch turns) program begun (.request asked next) before →
      Run.answer turns (Run.switch turns) asked before = some (reply, after) → asked.error? reply = some guard.error →
        StruckIn turns guard alarm asked before
  once : ∀ {β γ : Type} (asked : Request ν σ β) (next : β → Program ν σ α) (before : World Q ν σ) (reply : β)
    (after : World Q ν σ) (other : Request ν σ γ) (rest : γ → Program ν σ α) (mid : World Q ν σ) (answer : γ)
    (last : World Q ν σ), Run.Reaches turns (Run.switch turns) program begun (.request asked next) before →
      Run.answer turns (Run.switch turns) asked before = some (reply, after) → asked.error? reply = some guard.error →
        Run.Reaches turns (Run.switch turns) (next reply) after (.request other rest) mid →
          Run.answer turns (Run.switch turns) other mid = some (answer, last) → other.error? answer ≠ some guard.error

namespace World.Guarding

variable [LawfulQueue Q] {alone : Prop} {guard : Timeout} {alarm : Alarm} {turns : Nat} {α : Type}
  {program : Program ν σ α} {begun world : World Q ν σ}

theorem overdue (guarding : Guarding alone guard alarm world) (due : Overdue alarm world) (left : Nat) : ∃ after,
    Run.switch (left + 1) world = some (.error (.failed guard.error), after) ∧ after.clock = world.clock := by
  have begins := guarding.beginSwitch
  obtain ⟨front, same⟩ := world.beginSwitch_eq
  obtain ⟨held, member, isAlarm⟩ := (LawfulQueue.isArmed_iff alarm.id guarding.recorded.sound).mp due.isArmed
  obtain ⟨-, rfl⟩ := guarding.armed_eq member isAlarm
  have unwoken : world.beginSwitch.hub.woken = false := by rw [same]; exact due.unwoken
  have inside : world.beginSwitch.hub.inCallback = false := (Run.inCallback_beginSwitch world).trans due.outside
  have queue : armed world.beginSwitch.hub.queue = armed world.hub.queue := by rw [same]; rfl
  have clock : world.beginSwitch.clock = world.clock := by rw [same]; rfl
  rcases found : world.beginSwitch.takeNext with ⟨_ | ⟨fires, action⟩, rest⟩
  · obtain ⟨-, empty, -⟩ := takeNext_none begins.recorded.sound found
    rw [← queue, empty] at member
    cases member
  · obtain ⟨-, onto, least⟩ := takeNext_some begins.recorded.sound found
    rw [queue] at onto
    obtain isFirst | isLater := List.mem_cons.mp (onto.mem_iff.mp member)
    · cases isFirst
      refine ⟨rest.arrive alarm, ?_, ?_⟩
      · simp only [Run.switch, Run.guarded, inside, Bool.false_eq_true, if_false, Run.loop_succ, Run.turn, unwoken, found,
          Run.fire, Run.Ending.answer]
      · obtain ⟨-, rfl⟩ := Prod.mk.inj found
        exact (Nat.max_eq_left (clock ▸ due.late)).trans clock
    · exact absurd (least _ isLater) (due.first _ (onto.mem_iff.mpr (List.mem_cons_self ..)))

theorem disarmed (guarding : Guarding alone guard alarm world) : (world.endLimit (some guard)).isArmed alarm.id = false ∧
    (armed (world.endLimit (some guard)).hub.queue).Perm ((armed world.hub.queue).filter (·.1.id ≠ alarm.id)) := by
  have recorded := guarding.recorded.steps (world.endLimit_steps (some guard))
  have onto : (armed (world.endLimit (some guard)).hub.queue).Perm
      ((armed world.hub.queue).filter (·.1.id ≠ alarm.id)) := by
    have forgot := guarding.recorded.step (.forget world guard.id)
    simp only [endLimit, World.cancelTimeout, guarding.holds]
    exact armed_cancel forgot.sound alarm.id
  refine ⟨Bool.eq_false_iff.mpr fun isArmed => ?_, onto⟩
  obtain ⟨held, member, same⟩ := (LawfulQueue.isArmed_iff alarm.id recorded.sound).mp isArmed
  exact of_decide_eq_true (List.mem_filter.mp (onto.mem_iff.mp member)).2 same

/-- What a request of a run that respects the guard is told. -/
theorem told (guarding : Guarding alone guard alarm begun) (plain : guard.exception = none)
    (confined : program.Confined turns (Request.Respects alone guard alarm.id) begun) {β : Type} {asked : Request ν σ β}
    {next : β → Program ν σ α} {before after : World Q ν σ} {reply : β}
    (reaches : Run.Reaches turns (Run.switch turns) program begun (.request asked next) before)
    (answered : Run.answer turns (Run.switch turns) asked before = some (reply, after)) :
    Told alone guard alarm (StruckIn turns guard alarm asked before) before after (asked.error? reply) :=
  Run.answer_told (confined.reaches (keeps plain) guarding reaches) plain (confined.asks asked next before reaches)
    (fun switched met => confined.2 switched ⟨_, asked, next, before, reaches, met⟩) answered

theorem interrupts (guarding : Guarding alone guard alarm begun) (plain : guard.exception = none)
    (confined : program.Confined turns (Request.Respects alone guard alarm.id) begun) :
    Interrupts turns guard alarm program begun where
  once moment met := by
    have kept := confined.meets (keeps plain) guarding met
    have distinct := kept.recorded.orderly.once.2.1
    refine List.nodup_iff_count_le_one.mp (List.Nodup.of_map Alarm.id ?_) alarm
    rwa [List.map_map]
  strikes asked next before reply after reaches answered unfired fired := by
    cases guarding.told plain confined reaches answered with
    | struck _ _ isError strikes => exact ⟨isError, strikes⟩
    | spared same => exact absurd (same.mp fired) unfired
  overdue moment here due left := by
    obtain met | switches := here
    · exact (confined.meets (keeps plain) guarding met).overdue due left
    · exact (Program.Confined.switches confined (keeps plain) guarding switches).overdue due left
  disarmed value ended ran := (confined.meets (keeps plain) guarding (Program.meets_end ran)).disarmed

theorem heardOnce (guarding : Guarding alone guard alarm begun) (isAlone : alone) (plain : guard.exception = none)
    (confined : program.Confined turns (Request.Respects alone guard alarm.id) begun) :
    HeardOnce turns guard alarm program begun where
  strikes asked next before reply after reaches answered isError := by
    cases guarding.told plain confined reaches answered with
    | struck _ _ _ strikes => exact strikes
    | spared _ silent => exact absurd isError (silent isAlone)
  once asked next before reply after other rest mid answer last reaches answered isError later answered' isError' := by
    have whole := reaches.trans (.request answered later)
    cases guarding.told plain confined reaches answered with
    | spared _ silent => exact silent isAlone isError
    | struck _ fired =>
      cases guarding.told plain confined whole answered' with
      | spared _ silent => exact silent isAlone isError'
      | struck unfired =>
        have met : (next reply).Meets turns after mid := later.meets .here
        exact unfired (fired.steps (Program.meets_steps met))

end World.Guarding

namespace World

variable [LawfulQueue Q] {world begun : World Q ν σ} {nanos : Nat}

/-- The guard's timer has the next number. -/
def guardAlarm (world : World Q ν σ) (nanos : Nat) : Alarm := ⟨world.clock + nanos, world.hub.nextTimer⟩

omit [LawfulQueue Q] in
theorem startGuard_fits (fits : (deadline? world.clock nanos).isSome) :
    ∃ begun, world.startGuard (some nanos) = (.ok (), begun) := by
  rcases started : world.startGuard (some nanos) with ⟨panic | ⟨⟩, begun⟩
  · obtain ⟨_, isLimit, overflows⟩ := startGuard_refused started
    cases isLimit
    rw [overflows] at fits
    cases fits
  · exact ⟨begun, rfl⟩

theorem mem_armed_cancelTimeout (recorded : Recorded world) (timeout : Timeout) :
    ∀ held ∈ armed (world.cancelTimeout timeout).2.hub.queue, held ∈ armed world.hub.queue := by
  intro held member
  unfold cancelTimeout at member
  split at member
  · exact member
  · have forgot := recorded.step (.forget world timeout.id)
    exact List.mem_of_mem_filter ((armed_cancel forgot.sound _).mem_iff.mp member)

/-- Starting a guard makes a timeout and arms a timer. -/
theorem startGuard_news (recorded : Recorded world) (started : world.startGuard (some nanos) = (.ok (), begun)) :
    begun.timeoutsMade = world.timeoutsMade + 1 ∧ begun.results = world.results ∧
      ∀ held ∈ armed begun.hub.queue, held ∈ armed world.hub.queue ∨ held.1.id = world.hub.nextTimer := by
  have made : Recorded (world.newTimeout (some nanos)).2 := recorded.step (.aside rfl rfl rfl rfl rfl rfl)
  have stopped := made.steps (cancelTimeout_steps _ (world.guardOf nanos))
  have left := mem_armed_cancelTimeout made (world.guardOf nanos)
  have new := mem_armed_schedule stopped.sound nanos (.raise (world.guardOf nanos).error)
  obtain ⟨mid, timers, isMid, numbers⟩ := (world.newTimeout (some nanos)).2.cancelTimeout_hub (world.guardOf nanos)
  obtain ⟨hub, isHub, -⟩ := ((world.newTimeout (some nanos)).2.cancelTimeout (world.guardOf nanos)).2.schedule_hub nanos
    (.raise (world.guardOf nanos).error)
  have delay : (world.guardOf nanos).after = some nanos := rfl
  simp only [startGuard, startTimeout, delay] at started
  split at started
  · cases started
  next timer scheduled answered =>
    cases started
    rw [answered] at new isHub
    have same : scheduled = { world with hub, timers, timeoutsMade := world.timeoutsMade + 1 } := by
      rw [isMid] at isHub
      exact isHub
    subst same
    refine ⟨rfl, rfl, fun held member => ?_⟩
    refine (new held member).imp (left held) fun isNew => isNew.1.trans ?_
    rw [isMid]
    exact numbers

/-- When the guarded task begins, its guard holds the timer. -/
theorem startGuard_guarding {alone : Prop} (recorded : Recorded world) (holding : Holding world)
    (started : world.startGuard (some nanos) = (.ok (), begun))
    (unheard : alone → Unheard (world.guardOf nanos).error world) :
    Guarding alone (world.guardOf nanos) (world.guardAlarm nanos) begun := by
  have steps := world.startGuard_steps (some nanos)
  rw [started] at steps
  obtain ⟨clings, isArmed⟩ := startGuard_armed recorded started
  obtain ⟨made, results, new⟩ := startGuard_news recorded started
  have holds := clings.held ((LawfulQueue.isArmed_iff _ clings.recorded.sound).mpr ⟨_, isArmed, rfl⟩)
  refine ⟨clings.recorded, holding.steps recorded steps, clings.known, ?_, holds, .inl isArmed, ?_, ?_⟩
  · rw [made]
    exact Nat.lt_succ_self _
  · intro isAlone held member raised
    exact (new held member).resolve_left fun before => (unheard isAlone).raises held before raised
  · intro isAlone id
    simp only [World.result, results]
    exact (unheard isAlone).results id

end World

theorem Tame.startGuard {admits : {β : Type} → Request ν σ β → Prop} [LawfulQueue Q] {world : World Q ν σ}
    (tame : Tame admits world) (limit : Option Nat) : Tame admits (world.startGuard limit).2 := by
  cases limit with
  | none => exact tame
  | some nanos =>
    have made : Tame admits (world.newTimeout (some nanos)).2 := Tame.carries.newTimeout world (some nanos) tame
    exact Tame.carries.startTimeout _ (world.guardOf nanos) made

/-- A guarded task has the outcome it has by itself, and its guard's timer is gone afterwards. If neither the task nor its
callbacks name the timer, it interrupts the task at most once, in a switch that ends when the time is over at the earliest,
and a switch that nothing else ends is interrupted at once when the time is over. If they do not pass the guard's error on
either, then no other request is answered with it. -/
theorem Bench.guard_interrupts {β : Type} (front : Front) (memory : σ) (past : Program ν σ β) (pastTurns : Nat)
    (world : Bench ν σ) (reached : past.Meets pastTurns (Bench.fresh front memory) world) (turns nanos : Nat)
    (fits : (deadline? world.clock nanos).isSome) (test : TestBody ν σ) (fixture : Fixture ν σ) :
    ∃ begun, world.startGuard (some nanos) = (.ok (), begun) ∧
      (guardTime (some nanos) test fixture).run.run turns world =
        ((test fixture).run.run turns begun).map (fun (outcome, ended) =>
          (outcome, ended.endLimit (some (world.guardOf nanos)))) ∧
      ((test fixture).run.Confined turns
        (fun asked => ¬ asked.Names (world.guardOf nanos).id (world.guardAlarm nanos).id) begun →
          Interrupts turns (world.guardOf nanos) (world.guardAlarm nanos) (test fixture).run begun) ∧
      (Unheard (world.guardOf nanos).error world → (test fixture).run.Confined turns
        (fun asked => ¬ asked.Names (world.guardOf nanos).id (world.guardAlarm nanos).id ∧
          ¬ asked.PassesOn (world.guardOf nanos).error) begun →
            HeardOnce turns (world.guardOf nanos) (world.guardAlarm nanos) (test fixture).run begun) := by
  have steps := Program.meets_steps reached
  have recorded := (World.Recorded.fresh front memory).steps steps
  have holding := (World.Holding.fresh front memory).steps (World.Recorded.fresh front memory) steps
  obtain ⟨begun, started⟩ := World.startGuard_fits fits
  refine ⟨begun, started, ?_, fun confined => ?_, fun unheard confined => ?_⟩
  · rw [run_guardTime, started]
    rfl
  · have guarding : Guarding False _ _ begun := World.startGuard_guarding recorded holding started False.elim
    exact guarding.interrupts rfl (confined.mono fun unnamed => ⟨unnamed, False.elim⟩)
  · have guarding : Guarding True _ _ begun := World.startGuard_guarding recorded holding started fun _ => unheard
    exact guarding.heardOnce trivial rfl (confined.mono fun both => ⟨both.1, fun _ => both.2⟩)

/-- A test that goes on after it was interrupted, while a callback keeps the hub busy. -/
def stubborn : TestBody Unit Nat := fun _ => do
  let _ ← Task.orPanic (Program.scheduleCall 1 "busy" (Task.ask (.burn 10)))
  let _ ← (Task.attempt (.sleep 5) : Task Unit Nat HubError Unit).outcome
  (Task.attempt (.sleep 4) : Task Unit Nat HubError Unit).ofHub

/-- The guard of a test that begins at once and may take three nanoseconds. -/
def shortGuard : Timeout := World.guardOf (Bench.fresh .direct 0 : Bench Unit Nat) 3

theorem stubborn_asks :
    (stubborn bareFixture).run.Asks fun asked => ¬ asked.Names 0 0 ∧ ¬ asked.PassesOn shortGuard.error := by
  refine ⟨⟨⟨nofun, nofun⟩, fun _ => trivial⟩, fun scheduled => ?_⟩
  cases scheduled with
  | error panic => trivial
  | ok timer => exact ⟨⟨nofun, nofun⟩, fun _ => ⟨⟨nofun, nofun⟩, fun _ => trivial⟩⟩

theorem stubborn_interrupted : ∃ begun ended : Bench Unit Nat,
    World.startGuard (Bench.fresh .direct 0) (some 3) = (.ok (), begun) ∧
    (stubborn bareFixture).run.run 9 begun = some (.ok (), ended) ∧
    ended.firings.map (fun firing => (firing.alarm, firing.clock)) = [(⟨15, 3⟩, 15), (⟨3, 0⟩, 11), (⟨1, 1⟩, 1)] ∧
    Interrupts 9 shortGuard ⟨3, 0⟩ (stubborn bareFixture).run begun ∧
    HeardOnce 9 shortGuard ⟨3, 0⟩ (stubborn bareFixture).run begun := by
  have reached : (pure () : Program Unit Nat Unit).Meets 0 (Bench.fresh .direct 0) (Bench.fresh .direct 0) :=
    Run.Meets.here
  obtain ⟨begun, started, -, interrupts, heardOnce⟩ :=
    Bench.guard_interrupts .direct 0 (pure ()) 0 _ reached 9 3 (by decide) stubborn bareFixture
  have runs : ((stubborn bareFixture).run.run 9 (World.startGuard (Bench.fresh .direct 0) (some 3)).2).map
      (fun (outcome, ended) => (outcome.isOk, ended.firings.map fun firing => (firing.alarm, firing.clock))) =
        some (true, [(⟨15, 3⟩, 15), (⟨3, 0⟩, 11), (⟨1, 1⟩, 1)]) := by decide +kernel
  have unheard (error : HubError) : Unheard error (Bench.fresh .direct 0 : Bench Unit Nat) := ⟨nofun, fun _ => nofun⟩
  have fresh : Tame (fun asked => ¬ asked.Names 0 0 ∧ ¬ asked.PassesOn shortGuard.error)
      (Bench.fresh .direct 0 : Bench Unit Nat) := ⟨World.Recorded.fresh .direct 0, nofun⟩
  have confined := stubborn_asks.confined (fresh.startGuard (some 3)) 9
  rw [started] at runs confined
  obtain ⟨⟨outcome, ended⟩, ran, facts⟩ := Option.map_eq_some_iff.mp runs
  obtain ⟨isOk, firings⟩ := Prod.mk.inj facts
  cases outcome with
  | error => cases isOk
  | ok => exact ⟨begun, ended, started, ran, firings, interrupts (confined.mono And.left), heardOnce (unheard _) confined⟩

end Testbench
