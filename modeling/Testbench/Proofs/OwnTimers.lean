import Testbench.Proofs.WakeTimers

/-! Waits and guards that clear up after themselves. The timeout they are under is not pending when they are over, however
they end. Every other timer that was armed still is, with its deadline and its action, unless it fired or something that
ran meanwhile cancelled it. -/

namespace Testbench

open LawfulQueue (armed Sound)

variable {ν σ : Type} {Q : Type 1} [TimerQueue (Action ν σ) Q]

namespace World

variable {world after : World Q ν σ}

/-- A timeout gets no timer but a new one. -/
theorem Step.holds_new (step : Step world after) : world.hub.nextTimer ≤ after.hub.nextTimer ∧
    ∀ timeout timer, after.timers.get? timeout = some timer →
      world.timers.get? timeout = some timer ∨ world.hub.nextTimer ≤ timer := by
  have kept {timeout timer : Nat} {timers : Registry Nat Nat} (same : timers = world.timers)
      (holds : timers.get? timeout = some timer) :
      world.timers.get? timeout = some timer ∨ world.hub.nextTimer ≤ timer := .inl (same ▸ holds)
  cases step with
  | aside _ _ _ numbers timers => exact ⟨Nat.le_of_eq numbers.symm, fun _ _ => kept timers⟩
  | burn | look | note | collect => exact ⟨Nat.le_refl _, fun _ _ => .inl⟩
  | schedule delay action =>
    unfold World.schedule
    dsimp only
    split <;> exact ⟨Nat.le_succ _, fun _ _ => .inl⟩
  | cancel timer =>
    unfold World.cancel
    split <;> exact ⟨Nat.le_refl _, fun _ _ => .inl⟩
  | @start scheduled delay timer timeout answered =>
    simp only [World.schedule, updateNow] at answered
    split at answered
    · cases answered
    cases answered
    refine ⟨Nat.le_succ _, fun other held holds => ?_⟩
    by_cases same : other = timeout.id
    · rw [same, Registry.get?_set_self] at holds
      exact .inr (Nat.le_of_eq (Option.some.inj holds))
    · rw [Registry.get?_set_of_ne _ _ same] at holds
      exact .inl holds
  | forget forgotten =>
    refine ⟨Nat.le_refl _, fun other held holds => ?_⟩
    rw [Registry.get?_erase] at holds
    split at holds
    · cases holds
    · exact .inl holds
  | runOut found | fire found =>
    obtain ⟨-, rfl⟩ := Prod.mk.inj found
    exact ⟨Nat.le_refl _, fun _ _ => .inl⟩

theorem Steps.holds_new (steps : Steps world after) : world.hub.nextTimer ≤ after.hub.nextTimer ∧
    ∀ timeout timer, after.timers.get? timeout = some timer →
      world.timers.get? timeout = some timer ∨ world.hub.nextTimer ≤ timer := by
  induction steps with
  | refl => exact ⟨Nat.le_refl _, fun _ _ => .inl⟩
  | tail _ last ih =>
    obtain ⟨numbers, holds⟩ := ih
    obtain ⟨grown, gets⟩ := last.holds_new
    refine ⟨Nat.le_trans numbers grown, fun timeout timer held => ?_⟩
    obtain before | new := gets timeout timer held
    · exact holds timeout timer before
    · exact .inr (Nat.le_trans numbers new)

variable [LawfulQueue Q] {held : Alarm × Action ν σ}

theorem fire_spares (sound : Sound world.hub.nextTimer world.hub.queue) {rest : World Q ν σ} {alarm : Alarm}
    {action : Action ν σ} (found : world.takeNext = (some (alarm, action), rest)) (member : held ∈ armed world.hub.queue) :
    held ∈ armed (rest.arrive alarm).hub.queue ∨ HasFired held.1 (rest.arrive alarm) := by
  obtain ⟨-, onto, -⟩ := takeNext_some sound found
  obtain rfl | still := List.mem_cons.mp (onto.mem_iff.mp member)
  · exact .inr ((Guarding.hasFired_arrive rest alarm alarm).mpr (.inl rfl))
  · exact .inl still

theorem Step.spares (step : Step world after) (sound : Sound world.hub.nextTimer world.hub.queue)
    (member : held ∈ armed world.hub.queue) :
    held ∈ armed after.hub.queue ∨ HasFired held.1 after ∨ held.1.id ∈ after.cancelled := by
  cases step with
  | aside _ queue => exact .inl (queue ▸ member)
  | burn | look | note | forget => exact .inl member
  | schedule delay action => exact .inl (armed_schedule_of_armed sound delay action held member)
  | @start scheduled delay timer timeout answered =>
    have still := armed_schedule_of_armed sound delay (.raise timeout.error) held member
    rw [answered] at still
    exact .inl still
  | cancel timer =>
    unfold World.cancel
    split
    · exact .inl member
    next rest dropping =>
      by_cases same : held.1.id = timer
      · exact .inr (.inr (same ▸ List.mem_cons_self ..))
      · obtain ⟨-, -, onto⟩ := LawfulQueue.cancel_some sound dropping
        exact .inl (onto.mem_iff.mpr (List.mem_filter.mpr ⟨member, decide_eq_true same⟩))
  | collect => exact .inl ((LawfulQueue.armed_collect sound).mem_iff.mpr member)
  | runOut found =>
    obtain ⟨-, nothing, -⟩ := takeNext_none sound found
    rw [nothing] at member
    cases member
  | fire found => exact (fire_spares sound found member).imp_right .inl

/-- An armed timer stays as it is until it fires or is cancelled. -/
theorem Steps.spares (steps : Steps world after) (recorded : Recorded world) (member : held ∈ armed world.hub.queue) :
    held ∈ armed after.hub.queue ∨ HasFired held.1 after ∨ held.1.id ∈ after.cancelled := by
  induction steps with
  | refl => exact .inl member
  | tail before last ih =>
    obtain still | fired | dropped := ih
    · exact last.spares (recorded.steps before).sound still
    · exact .inr (.inl (fired.steps (.single last)))
    · exact .inr (.inr ((last.journal_grows.filterMap HubEvent.cancelling?).subset dropped))

end World

/-- What has become of an armed timer. Each of the ways is that of something which ran meanwhile, from where it began to
where it ended. -/
inductive Spared [LawfulQueue Q] (ways : World Q ν σ → World Q ν σ → Prop) (held : Alarm × Action ν σ)
    (after : World Q ν σ) : Prop where
  | armed (member : held ∈ armed after.hub.queue) : Spared ways held after
  | fired (fired : World.HasFired held.1 after) : Spared ways held after
  | cancelled {first last : World Q ν σ} (way : ways first last) (isArmed : first.isArmed held.1.id = true)
      (cancelled : held.1.id ∈ last.cancelled) : Spared ways held after

/-- The timer is another than the one the timeout holds. A timeout that a wait makes for itself holds none, unless somebody
made its number up. -/
def Foreign (own : Option Timeout) (world : World Q ν σ) (held : Alarm × Action ν σ) : Prop :=
  ∀ timeout, own = some timeout → world.timers.get? timeout.id ≠ some held.1.id

/-- The timeout and its copies are not pending any more, and all other timers are spared. -/
structure Disarms [LawfulQueue Q] (own : Option Timeout) (ways : World Q ν σ → World Q ν σ → Prop)
    (before after : World Q ν σ) : Prop where
  ended : ∀ timeout, own = some timeout → ∀ copy : Timeout, copy.id = timeout.id → after.isPending copy = false
  others : ∀ held ∈ armed before.hub.queue, Foreign own before held → Spared ways held after

section

variable [LawfulQueue Q] {ways ways' : World Q ν σ → World Q ν σ → Prop} {held : Alarm × Action ν σ}
  {world before mid after : World Q ν σ} {own : Option Timeout}

namespace Spared

theorem onward (spared : Spared ways held mid) (steps : World.Steps mid after)
    (kept : held ∈ LawfulQueue.armed mid.hub.queue → Spared ways held after) : Spared ways held after := by
  cases spared with
  | armed member => exact kept member
  | fired fired => exact .fired (fired.steps steps)
  | cancelled way isArmed cancelled => exact .cancelled way isArmed cancelled

theorem mono (spared : Spared ways held after) (among : ∀ first last, ways first last → ways' first last) :
    Spared ways' held after := by
  cases spared with
  | armed member => exact .armed member
  | fired fired => exact .fired fired
  | cancelled way isArmed cancelled => exact .cancelled (among _ _ way) isArmed cancelled

theorem aside (spared : Spared ways held mid) (queue : after.hub.queue = mid.hub.queue)
    (firings : after.firings = mid.firings) : Spared ways held after := by
  cases spared with
  | armed member => exact .armed (queue ▸ member)
  | fired fired => exact .fired ((World.hasFired_congr firings held.1).mpr fired)
  | cancelled way isArmed cancelled => exact .cancelled way isArmed cancelled

/-- What ran may have cancelled the timer itself. -/
theorem of_way (recorded : World.Recorded mid) (steps : World.Steps mid after) (way : ways mid after)
    (member : held ∈ LawfulQueue.armed mid.hub.queue) : Spared ways held after := by
  obtain still | fired | dropped := steps.spares recorded member
  · exact .armed still
  · exact .fired fired
  · exact .cancelled way ((LawfulQueue.isArmed_iff _ recorded.sound).mpr ⟨held, member, rfl⟩) dropped

end Spared

/-! The callbacks of a request. -/

namespace Run

/-- A callback that the hub's loop runs, from where it begins to where it ends. -/
inductive LoopRuns : Nat → World Q ν σ → World Q ν σ → World Q ν σ → Prop where
  | now {turns : Nat} {head rest last : World Q ν σ} {alarm : Alarm} {label : String} {callback : Callback ν σ}
      {outcome : Except (Stop HubError) Unit} (unwoken : head.hub.woken = false)
      (found : head.takeNext = (some (alarm, .call label callback), rest))
      (called : program turns (guarded (loop turns)) callback ((rest.arrive alarm).setInCallback true) =
        some (outcome, last)) : LoopRuns (turns + 1) head ((rest.arrive alarm).setInCallback true) last
  | later {turns : Nat} {head next first last : World Q ν σ} (stayed : turn turns head = some (.stays next))
      (runs : LoopRuns turns next first last) : LoopRuns (turns + 1) head first last

/-- The beginnings of the callbacks in a switch that end in a world. -/
abbrev callbacksTo (turns : Nat) (last : World Q ν σ) : Meeting Q ν σ :=
  guardedMeets fun head first => LoopRuns turns head first last

/-- The beginnings of the callbacks in a wait that end in a world. -/
abbrev untilCallbacksTo (turns : Nat) (watched : Watched) (left : Nat) (last : World Q ν σ) : Meeting Q ν σ :=
  MeetsUntil (switch turns) (callbacksTo turns last) (fun world => world.present watched) left

/-- A callback that is run in a request. -/
def CallbackRuns (turns : Nat) {β : Type} (asked : Request ν σ β) (before first last : World Q ν σ) : Prop :=
  MeetsIn turns (switch turns) (callbacksTo turns last) asked before first

omit [TimerQueue (Action ν σ) Q] [LawfulQueue Q] in
theorem afterCallback_aside (label : String) (outcome : Except (Stop HubError) Unit) (ended : World Q ν σ) :
    (afterCallback label (outcome, ended)).world.hub.queue = ended.hub.queue ∧
      (afterCallback label (outcome, ended)).world.firings = ended.firings := by
  rcases outcome with (error | panic) | _ <;> exact ⟨rfl, rfl⟩

variable {turns : Nat}

theorem turn_spares (recorded : World.Recorded world) {taken : Turn Q ν σ} (ran : turn turns world = some taken)
    (member : held ∈ armed world.hub.queue) : Spared (LoopRuns (turns + 1) world) held taken.world := by
  cases turn_takes ran with
  | resumes => exact .armed member
  | runsOut unwoken found =>
    obtain ⟨-, nothing, -⟩ := World.takeNext_none recorded.sound found
    rw [nothing] at member
    cases member
  | wakes unwoken found | raises unwoken found =>
    obtain still | fired := World.fire_spares recorded.sound found member
    · exact .armed still
    · exact .fired fired
  | @calls alarm label callback rest ended outcome unwoken found called =>
    have steps := program_steps (guarded_steps (loop_steps turns)) turns callback _ _ _ called
    have begins : World.Recorded ((rest.arrive alarm).setInCallback true) :=
      (recorded.fire found).step (.aside rfl rfl rfl rfl rfl rfl)
    obtain ⟨queue, firings⟩ := afterCallback_aside label outcome ended
    refine Spared.aside ?_ queue firings
    have lasts (fired : World.HasFired held.1 ((rest.arrive alarm).setInCallback true)) : World.HasFired held.1 ended :=
      fired.steps steps
    obtain still | fired := World.fire_spares recorded.sound found member
    · exact .of_way begins steps (.now unwoken found called) still
    · exact .fired (lasts fired)

theorem loop_spares (recorded : World.Recorded world) {answer : Except (Stop HubError) Unit}
    (ran : loop turns world = some (answer, after)) (member : held ∈ armed world.hub.queue) :
    Spared (LoopRuns turns world) held after := by
  induction turns generalizing world with
  | zero => cases ran
  | succ turns ih =>
    rw [loop_succ] at ran
    split at ran
    · cases ran
    next ending last left =>
      cases ran
      exact turn_spares recorded left member
    next next stayed =>
      have recordedNext := recorded.steps (turn_steps (loop_steps turns) stayed)
      refine (turn_spares recorded stayed member).onward (loop_steps turns _ _ _ ran) fun still => ?_
      exact (ih recordedNext ran still).mono fun _ _ => .later stayed

theorem switch_spares (recorded : World.Recorded world) {answer : Except (Stop HubError) Unit}
    (ran : switch turns world = some (answer, after)) (member : held ∈ armed world.hub.queue) :
    Spared (fun first last => callbacksTo turns last world first) held after := by
  have began := recorded.steps world.beginSwitch_steps
  obtain ⟨front, same⟩ := world.beginSwitch_eq
  have still : held ∈ armed world.beginSwitch.hub.queue := by rw [same]; exact member
  simp only [switch, guarded] at ran
  split at ran
  next => cases ran; exact .armed still
  next outside =>
    exact (loop_spares began ran still).mono fun _ _ runs => ⟨Bool.eq_false_iff.mpr outside, runs⟩

omit [LawfulQueue Q] in
theorem untilPresent_steps {watched : Watched} {left : Nat} {answer : Except (Stop HubError) Unit}
    (ran : untilPresent (switch turns) watched left world = some (answer, after)) : World.Steps world after := by
  induction left generalizing world with
  | zero => cases ran
  | succ left ih =>
    simp only [untilPresent] at ran
    split at ran
    · cases ran
    next switched => cases ran; exact switch_steps turns _ _ _ switched
    next switched =>
      have first := switch_steps turns _ _ _ switched
      split at ran
      · cases ran; exact first
      · exact first.trans (ih ran)

theorem until_spares (recorded : World.Recorded world) {watched : Watched} {left : Nat}
    {answer : Except (Stop HubError) Unit}
    (ran : untilPresent (switch turns) watched left world = some (answer, after)) (member : held ∈ armed world.hub.queue) :
    Spared (fun first last => untilCallbacksTo turns watched left last world first) held after := by
  induction left generalizing world with
  | zero => cases ran
  | succ left ih =>
    simp only [untilPresent] at ran
    split at ran
    · cases ran
    next switched =>
      cases ran
      exact (switch_spares recorded switched member).mono fun _ _ => .within
    next mid switched =>
      have first : Spared (fun first last => untilCallbacksTo turns watched (left + 1) last world first) held mid :=
        (switch_spares recorded switched member).mono fun _ _ => .within
      split at ran
      · cases ran; exact first
      next absent =>
        have recordedMid := recorded.steps (switch_steps turns _ _ _ switched)
        refine first.onward (untilPresent_steps ran) fun still => ?_
        exact (ih recordedMid ran still).mono fun _ _ => .again switched (Bool.eq_false_iff.mpr absent)

end Run

/-! The timeouts that waits and guards start, and what becomes of them. -/

namespace World

/-- All that a start of the timeout can come to. -/
inductive Begins (timeout : Timeout) (world : World Q ν σ) : Except Panic Unit × World Q ν σ → Prop where
  | endless (endless : timeout.after = none) : Begins timeout world (.ok (), (world.cancelTimeout timeout).2)
  | beyond {duration : Nat} {after : World Q ν σ} (lasts : timeout.after = some duration)
      (overflows : deadline? world.clock duration = none)
      (queue : after.hub.queue = (world.cancelTimeout timeout).2.hub.queue)
      (timers : after.timers = (world.cancelTimeout timeout).2.timers) :
      Begins timeout world (.error .instantOverflow, after)
  | armed {duration : Nat} {after : World Q ν σ} (lasts : timeout.after = some duration)
      (fits : (deadline? world.clock duration).isSome)
      (onto : (LawfulQueue.armed after.hub.queue).Perm ((⟨world.clock + duration, world.hub.nextTimer⟩,
        .raise timeout.error) :: LawfulQueue.armed (world.cancelTimeout timeout).2.hub.queue))
      (timers : after.timers = (world.cancelTimeout timeout).2.timers.set timeout.id world.hub.nextTimer) :
      Begins timeout world (.ok (), after)

theorem startTimeout_begins (sound : Sound world.hub.nextTimer world.hub.queue) (timeout : Timeout) :
    Begins timeout world (world.startTimeout timeout) := by
  obtain ⟨clock, numbers⟩ := world.cancelTimeout_keeps timeout
  have stopped := cancelTimeout_stopped sound timeout
  cases lasts : timeout.after with
  | none =>
    simp only [startTimeout, lasts]
    exact .endless lasts
  | some duration =>
    simp only [startTimeout, lasts]
    rcases answered : (world.cancelTimeout timeout).2.schedule duration (.raise timeout.error) with ⟨panic | timer, after⟩
    · obtain ⟨rfl, overflows⟩ := schedule_refused answered
      rw [clock] at overflows
      simp only [schedule, updateNow, clock, overflows] at answered
      obtain ⟨-, rfl⟩ := Prod.mk.inj answered
      exact .beyond lasts overflows rfl rfl
    · have fits : (deadline? world.clock duration).isSome := by
        simp only [schedule, updateNow, clock] at answered
        split at answered
        · cases answered
        next fits => rw [fits]; rfl
      obtain ⟨rfl, -, kept, onto⟩ := schedule_armed _ stopped.sound answered
      rw [clock, numbers] at onto
      exact .armed lasts fits onto (by rw [← kept, ← numbers])

theorem startTimeout_spares (sound : Sound world.hub.nextTimer world.hub.queue) (timeout : Timeout)
    (member : held ∈ armed world.hub.queue) (foreign : world.timers.get? timeout.id ≠ some held.1.id) :
    held ∈ armed (world.startTimeout timeout).2.hub.queue := by
  have kept := (cancelTimeout_stopped sound timeout).kept held member foreign
  have begins := startTimeout_begins sound timeout
  generalize world.startTimeout timeout = started at begins ⊢
  cases begins with
  | endless => exact kept
  | beyond _ _ queue => exact queue ▸ kept
  | armed _ _ onto => exact onto.mem_iff.mpr (List.mem_cons_of_mem _ kept)

theorem startTimeout_refused (sound : Sound world.hub.nextTimer world.hub.queue) {timeout : Timeout} {panic : Panic}
    (refused : world.startTimeout timeout = (.error panic, after)) : after.timers.get? timeout.id = none := by
  have begins := startTimeout_begins sound timeout
  rw [refused] at begins
  cases begins with
  | beyond _ _ _ timers =>
    rw [timers]
    exact (cancelTimeout_stopped sound timeout).own

theorem startLimit_spares (sound : Sound world.hub.nextTimer world.hub.queue) (limit : WaitLimit)
    (member : held ∈ armed world.hub.queue) (foreign : Foreign (limit.own world) world held) :
    held ∈ armed (world.startLimit limit).2.hub.queue := by
  cases limit with
  | never => exact member
  | after duration =>
    exact @startTimeout_spares _ _ _ _ _ held (world.newTimeout (some duration)).2 sound _ member (foreign _ rfl)
  | under timeout =>
    simp only [startLimit]
    split
    · exact member
    · exact startTimeout_spares sound timeout member (foreign timeout rfl)

theorem startLimit_refused (sound : Sound world.hub.nextTimer world.hub.queue) {limit : WaitLimit} {panic : Panic}
    (refused : world.startLimit limit = (.error panic, after)) :
    ∀ timeout, limit.own world = some timeout → after.timers.get? timeout.id = none := by
  intro timeout own
  have refuses (base : World Q ν σ) (sound : Sound base.hub.nextTimer base.hub.queue)
      (mapped : (base.startTimeout timeout).1.map (fun _ => some timeout) = .error panic) :
      (base.startTimeout timeout).2.timers.get? timeout.id = none := by
    rcases started : base.startTimeout timeout with ⟨_ | _, _⟩ <;> rw [started] at mapped
    · exact startTimeout_refused sound started
    · cases mapped
  cases limit with
  | never => cases own
  | after duration =>
    cases own
    obtain ⟨mapped, rfl⟩ := Prod.mk.inj refused
    exact refuses (world.newTimeout (some duration)).2 sound mapped
  | under =>
    cases own
    simp only [startLimit] at refused
    split at refused
    · cases refused
    · obtain ⟨mapped, rfl⟩ := Prod.mk.inj refused
      exact refuses world sound mapped

end World

namespace Disarms

/-- Nothing was started. -/
theorem refused (unheld : ∀ timeout, own = some timeout → after.timers.get? timeout.id = none)
    (kept : ∀ held ∈ armed before.hub.queue, Foreign own before held → held ∈ armed after.hub.queue) :
    Disarms own ways before after where
  ended timeout isOwn copy same := by
    simp only [World.isPending, same, unheld timeout isOwn, Option.any_none]
  others held member foreign := .armed (kept held member foreign)

/-- The wait could not even begin. -/
theorem unlimited {limit : WaitLimit} {panic : Panic} (recorded : World.Recorded before)
    (start : before.startLimit limit = (.error panic, after)) : Disarms (limit.own before) ways before after := by
  apply refused (World.startLimit_refused recorded.sound start)
  intro held member foreign
  have still := World.startLimit_spares recorded.sound limit member foreign
  rwa [start] at still

/-- The timeout is cancelled at last. It has not come to hold a timer that was armed before. -/
theorem stopped (recorded : World.Recorded before) (steps : World.Steps before mid)
    (spared : ∀ held ∈ armed before.hub.queue, Foreign own before held → Spared ways held mid) :
    Disarms own ways before (mid.endLimit own) := by
  have recordedMid := recorded.steps steps
  have onward := mid.endLimit_steps own
  cases own with
  | none => exact ⟨nofun, spared⟩
  | some timeout =>
    have stopped := World.cancelTimeout_stopped recordedMid.sound timeout
    refine ⟨fun own isOwn copy same => ?_, fun held member foreign => ?_⟩
    · cases isOwn
      change ((mid.cancelTimeout timeout).2.timers.get? copy.id).any _ = false
      rw [same, stopped.own, Option.any_none]
    · refine (spared held member foreign).onward onward fun still => ?_
      refine .armed (stopped.kept held still fun holds => ?_)
      obtain same | new := steps.holds_new.2 timeout.id held.1.id holds
      · exact foreign timeout rfl same
      · exact absurd (LawfulQueue.numbered recorded.sound held member) (Nat.not_lt_of_le new)

end Disarms

/-! Waits. -/

namespace Run

variable {turns : Nat} {limit : WaitLimit}

/-- A wait that has begun, up to where its waiter is signed off and its timeout cancelled. -/
theorem waited_disarms {timeout : Option Timeout} {begun watching last : World Q ν σ} {watched : Watched}
    {answer : Except (Stop HubError) Unit} (recorded : World.Recorded before)
    (start : before.startLimit limit = (.ok timeout, begun)) (signedOn : World.Steps begun watching)
    (same : watching.hub.queue = begun.hub.queue)
    (ran : untilPresent (switch turns) watched turns watching = some (answer, mid)) (signedOff : World.Steps mid last)
    (queue : last.hub.queue = mid.hub.queue) (firings : last.firings = mid.firings)
    (among : ∀ first moment, untilCallbacksTo turns watched turns moment watching first → ways first moment) :
    Disarms (limit.own before) ways before (last.endLimit timeout) := by
  have started := before.startLimit_steps limit
  rw [start] at started
  have watches : World.Steps before watching := started.trans signedOn
  obtain rfl := World.startLimit_own start
  refine .stopped recorded ((watches.trans (untilPresent_steps ran)).trans signedOff) fun held member foreign => ?_
  have still := World.startLimit_spares recorded.sound limit member foreign
  rw [start, ← same] at still
  exact ((until_spares (recorded.steps watches) ran still).mono among).aside queue firings

theorem wait_disarms (recorded : World.Recorded before) {id : EventId} (unset : (before.event id).isSet = false)
    {reply : Except (Stop HubError) Waited} (waited : wait turns (switch turns) id limit before = some (reply, after)) :
    Disarms (limit.own before) (CallbackRuns turns (.wait id limit) before) before after := by
  simp only [wait, unset, Bool.false_eq_true, if_false] at waited
  split at waited
  next start =>
    cases waited
    exact .unlimited recorded start
  next timeout begun start =>
    have signedOn : World.Steps begun (begun.addEventWaiter id) := .aside rfl rfl rfl rfl rfl rfl
    have signedOff (mid : World Q ν σ) : World.Steps mid (mid.removeEventWaiter id) := .aside rfl rfl rfl rfl rfl rfl
    have among (first last : World Q ν σ)
        (met : untilCallbacksTo turns (.event id) turns last (begun.addEventWaiter id) first) :
        CallbackRuns turns (.wait id limit) before first last := .wait unset start met
    simp only [untilSet_eq] at waited
    split at waited
    · cases waited
    -- A panic comes past the place where the waiter is signed off.
    next ran => cases waited; exact waited_disarms recorded start signedOn rfl ran .refl rfl rfl among
    next ran =>
      split at waited <;> cases waited <;>
        exact waited_disarms recorded start signedOn rfl ran (signedOff _) rfl rfl among
    next ran => cases waited; exact waited_disarms recorded start signedOn rfl ran (signedOff _) rfl rfl among

theorem get_disarms (recorded : World.Recorded before) {id : ResultId} (unready : (before.result id).value = none)
    {reply : Except (Stop HubError) ν} (got : get turns (switch turns) id limit before = some (reply, after)) :
    Disarms (limit.own before) (CallbackRuns turns (.get id limit) before) before after := by
  have isUnready : (before.result id).isReady = false := congrArg Option.isSome unready
  simp only [get, unready] at got
  split at got
  next start =>
    cases got
    exact .unlimited recorded start
  next timeout begun start =>
    have signedOn : World.Steps begun (begun.addResultWaiter id) := .aside rfl rfl rfl rfl rfl rfl
    have signedOff (mid : World Q ν σ) : World.Steps mid (mid.removeResultWaiter id) := .aside rfl rfl rfl rfl rfl rfl
    have among (first last : World Q ν σ)
        (met : untilCallbacksTo turns (.result id) turns last (begun.addResultWaiter id) first) :
        CallbackRuns turns (.get id limit) before first last := .get isUnready start met
    have present {mid : World Q ν σ} {reply : Except (Stop HubError) ν}
        (ran : untilReady (switch turns) id turns (begun.addResultWaiter id) = some (reply, mid)) :
        ∃ answer, untilPresent (switch turns) (.result id) turns (begun.addResultWaiter id) = some (answer, mid) := by
      obtain ⟨_, -, ran⟩ | ⟨_, -, -, ran⟩ := untilReady_eq_some ran <;> exact ⟨_, ran⟩
    split at got
    · cases got
    next ran =>
      obtain ⟨_, switched⟩ := present ran
      cases got
      exact waited_disarms recorded start signedOn rfl switched .refl rfl rfl among
    next ran =>
      obtain ⟨_, switched⟩ := present ran
      cases got
      exact waited_disarms recorded start signedOn rfl switched (signedOff _) rfl rfl among

end Run

/-! Guards. -/

/-- The task runs under the timeout, from where the timeout is started to where it is cancelled. -/
def Timeout.BodyRuns (timeout : Timeout) {ε α : Type} (task : Task ν σ ε α) (turns : Nat)
    (before first last : World Q ν σ) : Prop :=
  before.startTimeout timeout = (.ok (), first) ∧ ∃ outcome, task.run.run turns first = some (outcome, last)

theorem Timeout.during_disarms (recorded : World.Recorded before) (timeout : Timeout) {ε α : Type}
    {task : Task ν σ ε α} {turns : Nat} {outcome : Except (Stop ε) α}
    (ran : (timeout.during task).run.run turns before = some (outcome, after)) :
    Disarms (some timeout) (timeout.BodyRuns task turns before) before after := by
  have steps := before.startTimeout_steps timeout
  have kept (held : Alarm × Action ν σ) (member : held ∈ armed before.hub.queue)
      (foreign : Foreign (some timeout) before held) : held ∈ armed (before.startTimeout timeout).2.hub.queue :=
    World.startTimeout_spares recorded.sound timeout member (foreign timeout rfl)
  rw [run_during] at ran
  split at ran
  next start =>
    cases ran
    rw [start] at kept
    refine .refused (fun own isOwn => ?_) kept
    cases isOwn
    exact World.startTimeout_refused recorded.sound start
  next begun start =>
    obtain ⟨⟨outcome, ended⟩, body, same⟩ := Option.map_eq_some_iff.mp ran
    cases same
    rw [start] at steps kept
    have runs := Program.run_steps body
    refine .stopped recorded (steps.trans runs) fun held member foreign => ?_
    exact .of_way (recorded.steps steps) runs ⟨start, _, body⟩ (kept held member foreign)

end

/-- In every state that a hub can reach, in the middle of a callback too, a wait for an event that is not set, a wait for
a result that is not ready and a task under a guard leave their own timeout not pending, whatever they end with. All other
timers that were armed still are, except for those that fired and those that a callback or the task cancelled. Waits for
what is there already leave everything as it is. -/
theorem Bench.own_timers_disarmed {β : Type} (front : Front) (memory : σ) (past : Program ν σ β) (pastTurns : Nat)
    (before : Bench ν σ) (reached : past.Meets pastTurns (Bench.fresh front memory) before) (turns : Nat) :
    (∀ id limit,
      ((before.event id).isSet = true →
        Run.answer turns (Run.switch turns) (.wait id limit) before = some (.ok .set, before)) ∧
      ((before.event id).isSet = false → ∀ reply after,
        Run.answer turns (Run.switch turns) (.wait id limit) before = some (reply, after) →
        Disarms (limit.own before) (Run.CallbackRuns turns (.wait id limit) before) before after)) ∧
    (∀ id limit,
      (∀ value, (before.result id).value = some value →
        Run.answer turns (Run.switch turns) (.get id limit) before = some (value.mapError .failed, before)) ∧
      ((before.result id).value = none → ∀ reply after,
        Run.answer turns (Run.switch turns) (.get id limit) before = some (reply, after) →
        Disarms (limit.own before) (Run.CallbackRuns turns (.get id limit) before) before after)) ∧
    ∀ (timeout : Timeout) {ε α : Type} (task : Task ν σ ε α) outcome after,
      (timeout.during task).run.run turns before = some (outcome, after) →
      Disarms (some timeout) (timeout.BodyRuns task turns before) before after := by
  have recorded : World.Recorded before := (World.Recorded.fresh front memory).steps (Program.meets_steps reached)
  refine ⟨fun id limit => ⟨fun isSet => ?_, fun unset reply after waited => Run.wait_disarms recorded unset waited⟩,
    fun id limit => ⟨fun value ready => ?_, fun unready reply after got => Run.get_disarms recorded unready got⟩,
    fun timeout ε α task outcome after ran => timeout.during_disarms recorded ran⟩
  · simp only [Run.answer, Run.wait, isSet, if_true]
  · simp only [Run.answer, Run.get, ready]

/-- It cancels somebody's timer before it panics. -/
def wrecker : Task Unit Unit HubError Unit := do
  let _ ← Task.ask (.hub (.cancel 1))
  Task.panic ⟨some "boom"⟩

def beset : Program Unit Unit Timeout := do
  let _ ← Program.ask (.hub (.schedule 90 .wake))
  let _ ← Program.ask (.hub (.schedule 80 .wake))
  let _ ← Program.scheduleCall 5 "wrecker" wrecker
  Program.ask (.newTimeout (some 40))

/-- The guard's timer has the number 3, and that of the wait under it the number 4. Nobody touches the first timer. -/
theorem beset_wait_disarmed : ∃ before after : Bench Unit Unit, ∃ guard : Timeout,
    beset.Meets 0 (Bench.fresh .direct ()) before ∧
      (guard.during (Task.attempt (.wait ⟨0⟩ (.after 20)))).run.run 4 before =
        some (.error (.panicked ⟨some "boom"⟩), after) ∧
      Disarms (some guard) (guard.BodyRuns (Task.attempt (.wait ⟨0⟩ (.after 20))) 4 before) before after ∧
      [0, 1, 3, 4].map after.isArmed = [true, false, false, false] := by
  let waiting : Task Unit Unit HubError Waited := Task.attempt (.wait ⟨0⟩ (.after 20))
  have runs : ((beset.run 0 (Bench.fresh .direct ())).bind fun (guard, before) =>
      ((guard.during waiting).run.run 4 before).map fun (outcome, after) => (outcome, [0, 1, 3, 4].map after.isArmed)) =
      some (.error (.panicked ⟨some "boom"⟩), [true, false, false, false]) := by decide +kernel
  obtain ⟨⟨guard, before⟩, began, guarded⟩ := Option.bind_eq_some_iff.mp runs
  obtain ⟨⟨outcome, after⟩, ran, told⟩ := Option.map_eq_some_iff.mp guarded
  obtain ⟨rfl, facts⟩ := Prod.mk.inj told
  have reached := Program.meets_end began
  have disarms := (Bench.own_timers_disarmed .direct () beset 0 before reached 4).2.2 guard waiting _ after ran
  exact ⟨before, after, guard, reached, ran, disarms, facts⟩

end Testbench
