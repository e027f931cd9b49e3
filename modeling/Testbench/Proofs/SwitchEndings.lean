import Testbench.Proofs.GuardInterrupts

/-! How a request that gives control to the hub comes to its end. Outside callbacks the hub resumes the task, a timer
interrupts it, or nothing is left that could fire. Only the panic of a callback ends it in another way. -/

namespace Testbench

variable {ν σ : Type} {Q : Type 1} [TimerQueue (Action ν σ) Q]

def Call.survived (call : Call) : Bool :=
  match call.outcome with
  | .error (.panicked _) => false
  | _ => true

namespace Run

/-- A switch ends in a turn that begins at one of the heads of the loop. -/
theorem Leaves.lastHead {turns : Nat} {world head after : World Q ν σ} {ending : Ending}
    (leaves : Leaves turns world head ending after) :
    loopHeads turns world head ∧ ∃ left, turn left head = some (.leaves ending after) := by
  induction leaves with
  | now left => exact ⟨.inl rfl, _, left⟩
  | later stayed _ ih => exact ⟨.inr ⟨_, stayed, ih.1⟩, ih.2⟩

/-- What every turn that stays in the loop keeps holds at each head of the loop. -/
theorem loopHeads_keeps {I : World Q ν σ → Prop} {admits : {β : Type} → Request ν σ β → Prop}
    (stays : ∀ {turns world next}, loopCalm admits (turns + 1) world → I world → turn turns world = some (.stays next) →
      I next) {turns : Nat} {world head : World Q ν σ} (calm : loopCalm admits turns world) (kept : I world)
    (met : loopHeads turns world head) : I head := by
  induction turns generalizing world with
  | zero => exact met.elim
  | succ turns ih =>
    obtain rfl | ⟨next, stayed, met⟩ := met
    · exact kept
    · exact ih (calm.2 next stayed) (stays calm kept stayed) met

/-! Callbacks that do not panic. -/

/-- None of the callbacks panicked. -/
abbrev Survive (calls : List Call) : Prop := ∀ call ∈ calls, call.survived = true

theorem Survive.mono {calls fewer : List Call} (survive : Survive calls) (among : ∀ call ∈ fewer, call ∈ calls) :
    Survive fewer :=
  fun call member => survive call (among call member)

/-- The panic that unwinds a switch is that of a callback. -/
theorem Leaves.called {turns : Nat} {world head after : World Q ν σ} {panic : Panic}
    (leaves : Leaves turns world head (.unwound panic) after) :
    ∃ label, ⟨label, .error (.panicked panic)⟩ ∈ loopCalls turns world := by
  generalize isUnwound : Ending.unwound panic = ending at leaves
  induction leaves with
  | now left =>
    generalize isLeft : Turn.leaves _ _ = taken at left
    cases turn_takes left with
    | resumes | runsOut | raises =>
      cases isLeft
      cases isUnwound
    | wakes => cases isLeft
    | @calls _ label _ _ ended outcome unwoken found called =>
      rcases outcome with (error | other) | _ <;> cases isLeft
      cases isUnwound
      refine ⟨label, List.mem_append_left _ ?_⟩
      simp only [turnCalls, unwoken, Bool.false_eq_true, if_false, found, called, List.mem_singleton]
  | later stayed _ ih =>
    obtain ⟨label, member⟩ := ih isUnwound
    refine ⟨label, List.mem_append_right _ ?_⟩
    simpa only [stayed] using member

theorem Leaves.survives {turns : Nat} {world head after : World Q ν σ} {ending : Ending}
    (leaves : Leaves turns world head ending after) (survive : Survive (loopCalls turns world)) (panic : Panic) :
    ending ≠ .unwound panic := by
  rintro rfl
  obtain ⟨label, member⟩ := leaves.called
  cases survive _ member

section

variable {turns : Nat} {switch : Switch Q ν σ} {calls : Calling Q ν σ} {call : Call}

omit [TimerQueue (Action ν σ) Q] in
theorem mem_untilCalls {done : World Q ν σ → Bool} {left : Nat} {world begun : World Q ν σ}
    (met : MeetsUntil switch Eq done left world begun) (member : call ∈ calls begun) :
    call ∈ untilCalls switch calls done left world := by
  induction met with
  | within same => exact List.mem_append_left _ (same ▸ member)
  | again switched undone _ ih =>
    refine List.mem_append_right _ ?_
    simpa only [switched, undone, Bool.false_eq_true, if_false] using ih member

/-- The callbacks of a switch are among those of the request it is made for. -/
theorem mem_callsIn {β : Type} {asked : Request ν σ β} {world begun : World Q ν σ}
    (met : MeetsIn turns switch Eq asked world begun) (member : call ∈ calls begun) :
    call ∈ callsIn turns switch calls asked world := by
  cases met with
  | switch same => exact same ▸ member
  | sleep scheduled same =>
    simp only [callsIn, scheduled]
    exact same ▸ member
  | wait unset start met =>
    simp only [callsIn, unset, Bool.false_eq_true, if_false, start]
    exact mem_untilCalls met member
  | get unready start met =>
    simp only [callsIn, unready, Bool.false_eq_true, if_false, start]
    exact mem_untilCalls met member

theorem mem_programCalls {α : Type} {program rest : Program ν σ α} {world mid : World Q ν σ}
    (reaches : Reaches turns switch program world rest mid) (member : call ∈ programCalls turns switch calls rest mid) :
    call ∈ programCalls turns switch calls program world := by
  induction reaches with
  | here => exact member
  | request answered _ ih =>
    simp only [programCalls, answered]
    exact List.mem_append_right _ (ih member)
  | call scheduled _ ih => simpa only [programCalls, scheduled] using ih member

end

/-! The endings. -/

/-- How a switch ends. -/
inductive SwitchEnds (turns : Nat) (begun : World Q ν σ) : Except (Stop HubError) Unit → World Q ν σ → Prop where
  | resumed {head : World Q ν σ} (met : guardedMeets (loopHeads turns) begun head) (woken : head.hub.woken = true) :
      SwitchEnds turns begun (.ok ()) head.clearWoken
  | interrupted {head rest : World Q ν σ} {alarm : Alarm} {error : HubError}
      (met : guardedMeets (loopHeads turns) begun head) (unwoken : head.hub.woken = false)
      (found : head.takeNext = (some (alarm, .raise error), rest)) :
      SwitchEnds turns begun (.error (.failed error)) (rest.arrive alarm)
  | ranOut {head rest : World Q ν σ} (met : guardedMeets (loopHeads turns) begun head)
      (unwoken : head.hub.woken = false) (found : head.takeNext = (none, rest)) : SwitchEnds turns begun (.error (.failed .loopExit)) rest

theorem SwitchEnds.unwoken {turns : Nat} {begun after : World Q ν σ} {answer : Except (Stop HubError) Unit}
    (ends : SwitchEnds turns begun answer after) : after.hub.woken = false := by
  cases ends with
  | resumed => rfl
  | interrupted _ unwoken found | ranOut _ unwoken found =>
    obtain ⟨-, rfl⟩ := Prod.mk.inj found
    exact unwoken

theorem switch_ends {turns : Nat} {begun after : World Q ν σ} {answer : Except (Stop HubError) Unit}
    (outside : begun.hub.inCallback = false) (survive : Survive (guardedCalls (loopCalls turns) begun))
    (ran : switch turns begun = some (answer, after)) : SwitchEnds turns begun answer after := by
  have still := (inCallback_beginSwitch begun).trans outside
  simp only [guardedCalls, still, Bool.false_eq_true, if_false] at survive
  simp only [switch, guarded, still, Bool.false_eq_true, if_false] at ran
  obtain ⟨head, ending, leaves, rfl⟩ := loop_eq_some_iff.mp ran
  obtain ⟨heads, left, taken⟩ := leaves.lastHead
  have met : guardedMeets (loopHeads turns) begun head := ⟨still, heads⟩
  have unwinds := leaves.survives survive
  generalize isTaken : Turn.leaves ending after = last at taken
  cases turn_takes taken with
  | resumes woken => cases isTaken; exact .resumed met woken
  | runsOut unwoken found => cases isTaken; exact .ranOut met unwoken found
  | raises unwoken found => cases isTaken; exact .interrupted met unwoken found
  | wakes => cases isTaken
  | @calls _ _ _ _ _ outcome =>
    rcases outcome with (error | panic) | _ <;> cases isTaken
    exact absurd rfl (unwinds panic)

/-- A timer that raises the error fires in a switch of the request, which ends with it. -/
inductive InterruptedBy (turns : Nat) {β : Type} (asked : Request ν σ β) (before : World Q ν σ) (error : HubError) :
    Prop where
  | fired {begun head rest : World Q ν σ} {alarm : Alarm} (begins : MeetsIn turns (switch turns) Eq asked before begun)
      (met : guardedMeets (loopHeads turns) begun head) (unwoken : head.hub.woken = false)
      (found : head.takeNext = (some (alarm, .raise error), rest))
      (ended : switch turns begun = some (.error (.failed error), rest.arrive alarm)) :
      InterruptedBy turns asked before error

/-- In a switch of the request nothing is left that could fire. -/
inductive RanOut (turns : Nat) {β : Type} (asked : Request ν σ β) (before : World Q ν σ) : Prop where
  | nothing {begun head rest : World Q ν σ} (begins : MeetsIn turns (switch turns) Eq asked before begun)
      (met : guardedMeets (loopHeads turns) begun head) (unwoken : head.hub.woken = false)
      (found : head.takeNext = (none, rest)) (ended : switch turns begun = some (.error (.failed .loopExit), rest)) :
      RanOut turns asked before

section

variable {turns : Nat} {β : Type} {asked : Request ν σ β} {world begun after : World Q ν σ}

theorem outside_begun (outside : world.hub.inCallback = false)
    (met : MeetsIn turns (switch turns) Eq asked world begun) : begun.hub.inCallback = false := by
  have within (world moment : World Q ν σ) (same : world = moment) : Outside world moment := same ▸ id
  exact carries_outside.meetsIn signs_outside (outside_switch turns) within met outside

/-- The callbacks of the request are survived. -/
abbrev SurvivesIn (turns : Nat) {β : Type} (asked : Request ν σ β) (world : World Q ν σ) : Prop :=
  Survive (callsIn turns (switch turns) (guardedCalls (loopCalls turns)) asked world)

theorem begun_ends (outside : world.hub.inCallback = false) (survives : SurvivesIn turns asked world)
    (met : MeetsIn turns (switch turns) Eq asked world begun) {answer : Except (Stop HubError) Unit}
    (ran : switch turns begun = some (answer, after)) : SwitchEnds turns begun answer after :=
  switch_ends (outside_begun outside met) (survives.mono fun _ => mem_callsIn met) ran

theorem SwitchEnds.failed {error : HubError} (ends : SwitchEnds turns begun (.error (.failed error)) after)
    (begins : MeetsIn turns (switch turns) Eq asked world begun)
    (ran : switch turns begun = some (.error (.failed error), after)) :
    InterruptedBy turns asked world error ∨ error = .loopExit ∧ RanOut turns asked world := by
  cases ends with
  | interrupted met unwoken found => exact .inl (.fired begins met unwoken found ran)
  | ranOut met unwoken found => exact .inr ⟨rfl, .nothing begins met unwoken found ran⟩

omit [TimerQueue (Action ν σ) Q] in
/-- A wait is answered what its last switch is. -/
theorem untilPresent_last {switch : Switch Q ν σ} {watched : Watched} {left : Nat}
    {answer : Except (Stop HubError) Unit} (ran : untilPresent switch watched left world = some (answer, after)) :
    ∃ begun, MeetsUntil switch Eq (fun world => world.present watched) left world begun ∧
      switch begun = some (answer, after) := by
  induction left generalizing world with
  | zero => cases ran
  | succ left ih =>
    simp only [untilPresent] at ran
    split at ran
    · cases ran
    next switched => cases ran; exact ⟨world, .within rfl, switched⟩
    next switched =>
      split at ran
      · cases ran; exact ⟨world, .within rfl, switched⟩
      next absent =>
        obtain ⟨begun, met, last⟩ := ih ran
        exact ⟨begun, .again switched (Bool.eq_false_iff.mpr absent) met, last⟩

/-- How a wait for an event ends. Its own timeout is a timer like any other. -/
inductive WaitEnds (turns : Nat) (id : EventId) (limit : WaitLimit) (before after : World Q ν σ) :
    Except (Stop HubError) Waited → Prop where
  | set (isSet : (after.event id).isSet = true) : WaitEnds turns id limit before after (.ok .set)
  | timedOut {timeout : Timeout} {error : HubError} (own : limit.own before = some timeout)
      (elapsed : timeout.elapsedIn error = true) (interrupted : InterruptedBy turns (.wait id limit) before error) :
      WaitEnds turns id limit before after (.ok .timedOut)
  | interrupted {error : HubError} (interrupted : InterruptedBy turns (.wait id limit) before error) :
      WaitEnds turns id limit before after (.error (.failed error))
  | ranOut (ranOut : RanOut turns (.wait id limit) before) :
      WaitEnds turns id limit before after (.error (.failed .loopExit))
  | beyond {panic : Panic} (overflows : before.startLimit limit = (.error panic, after)) :
      WaitEnds turns id limit before after (.error (.panicked panic))

/-- How a wait for a result ends. -/
inductive GetEnds (turns : Nat) (id : ResultId) (limit : WaitLimit) (before after : World Q ν σ) :
    Except (Stop HubError) ν → Prop where
  | ready {value : Except HubError ν} (stored : (after.result id).value = some value) :
      GetEnds turns id limit before after (value.mapError .failed)
  | interrupted {error : HubError} (interrupted : InterruptedBy turns (.get id limit) before error) :
      GetEnds turns id limit before after (.error (.failed error))
  | ranOut (ranOut : RanOut turns (.get id limit) before) :
      GetEnds turns id limit before after (.error (.failed .loopExit))
  | beyond {panic : Panic} (overflows : before.startLimit limit = (.error panic, after)) :
      GetEnds turns id limit before after (.error (.panicked panic))

theorem WaitEnds.lost {id : EventId} {limit : WaitLimit} {reply : Except (Stop HubError) Waited}
    (ends : WaitEnds turns id limit world after reply) : lostIn (.wait id limit) world reply = [] := by
  cases ends with
  | beyond overflows => simp only [lostIn, overflows, Except.isOk, Except.toBool, Bool.false_eq_true, if_false]
  | _ => rfl

theorem GetEnds.lost {id : ResultId} {limit : WaitLimit} {reply : Except (Stop HubError) ν}
    (ends : GetEnds turns id limit world after reply) : lostIn (.get id limit) world reply = [] := by
  cases ends with
  | beyond overflows => simp only [lostIn, overflows, Except.isOk, Except.toBool, Bool.false_eq_true, if_false]
  | @ready value => cases value <;> rfl
  | _ => rfl

theorem wait_ends {id : EventId} {limit : WaitLimit} (outside : world.hub.inCallback = false)
    (survives : SurvivesIn turns (.wait id limit) world) {reply : Except (Stop HubError) Waited}
    (waited : wait turns (switch turns) id limit world = some (reply, after)) :
    WaitEnds turns id limit world after reply ∧ (world.hub.woken = false → after.hub.woken = false) := by
  unfold wait at waited
  split at waited
  next isSet => cases waited; exact ⟨.set isSet, fun unwoken => unwoken⟩
  next isUnset =>
    have unset := Bool.eq_false_iff.mpr isUnset
    split at waited
    next start =>
      have started := carries_uneventful.startLimit world limit
      cases waited
      rw [start] at started
      exact ⟨.beyond start, started.woken.trans⟩
    next timeout begun start =>
      have last {answer : Except (Stop HubError) Unit} {mid : World Q ν σ}
          (ran : untilPresent (switch turns) (.event id) turns (begun.addEventWaiter id) = some (answer, mid)) :
          ∃ switched, MeetsIn turns (switch turns) Eq (.wait id limit) world switched ∧
            switch turns switched = some (answer, mid) ∧ SwitchEnds turns switched answer mid := by
        obtain ⟨switched, met, switches⟩ := untilPresent_last ran
        have begins : MeetsIn turns (switch turns) Eq (.wait id limit) world switched := .wait unset start met
        exact ⟨switched, begins, switches, begun_ends outside survives begins switches⟩
      have off (mid : World Q ν σ) : World.Uneventful mid ((mid.removeEventWaiter id).endLimit timeout) :=
        (signs_uneventful.removeEventWaiter mid id).trans (carries_uneventful.endLimit _ timeout)
      simp only [untilSet_eq] at waited
      split at waited
      · cases waited
      next ran =>
        obtain ⟨_, -, -, ends⟩ := last ran
        cases ends
      next error mid ran =>
        obtain ⟨_, begins, switched, ends⟩ := last ran
        have unwoken := (off mid).woken.trans ends.unwoken
        have failed := ends.failed begins switched
        split at waited
        next elapsed =>
          cases waited
          obtain ⟨own, rfl, elapsed⟩ := (Option.any_eq_true _ _).mp elapsed
          obtain interrupted | ⟨rfl, -⟩ := failed
          · exact ⟨.timedOut (World.startLimit_own start).symm elapsed interrupted, fun _ => unwoken⟩
          · cases elapsed
        next =>
          cases waited
          obtain interrupted | ⟨rfl, ranOut⟩ := failed
          · exact ⟨.interrupted interrupted, fun _ => unwoken⟩
          · exact ⟨.ranOut ranOut, fun _ => unwoken⟩
      next mid ran =>
        obtain ⟨_, -, -, ends⟩ := last ran
        cases waited
        have isSet := ((off mid).sets id).trans (present_of_untilPresent ran)
        exact ⟨.set isSet, fun _ => (off mid).woken.trans ends.unwoken⟩

/-- The same of a result that is waited for. -/
theorem get_ends {id : ResultId} {limit : WaitLimit} (outside : world.hub.inCallback = false)
    (survives : SurvivesIn turns (.get id limit) world) {reply : Except (Stop HubError) ν}
    (got : get turns (switch turns) id limit world = some (reply, after)) :
    GetEnds turns id limit world after reply ∧ (world.hub.woken = false → after.hub.woken = false) := by
  unfold get at got
  split at got
  next stored => cases got; exact ⟨.ready stored, fun unwoken => unwoken⟩
  next missing =>
    have unready : (world.result id).isReady = false := congrArg Option.isSome missing
    split at got
    next start =>
      have started := carries_uneventful.startLimit world limit
      cases got
      rw [start] at started
      exact ⟨.beyond start, started.woken.trans⟩
    next timeout begun start =>
      have last {answer : Except (Stop HubError) Unit} {mid : World Q ν σ}
          (ran : untilPresent (switch turns) (.result id) turns (begun.addResultWaiter id) = some (answer, mid)) :
          ∃ switched, MeetsIn turns (switch turns) Eq (.get id limit) world switched ∧
            switch turns switched = some (answer, mid) ∧ SwitchEnds turns switched answer mid := by
        obtain ⟨switched, met, switches⟩ := untilPresent_last ran
        have begins : MeetsIn turns (switch turns) Eq (.get id limit) world switched := .get unready start met
        exact ⟨switched, begins, switches, begun_ends outside survives begins switches⟩
      have off (mid : World Q ν σ) : World.Uneventful mid ((mid.removeResultWaiter id).endLimit timeout) :=
        (signs_uneventful.removeResultWaiter mid id).trans (carries_uneventful.endLimit _ timeout)
      split at got
      · cases got
      next ran =>
        obtain ⟨stop, same, present⟩ | ⟨value, same, -⟩ := untilReady_eq_some ran
        · cases same
          obtain ⟨_, -, -, ends⟩ := last present
          cases ends
        · cases value <;> cases same
      next mid _ ran =>
        obtain ⟨rfl, rfl⟩ := Prod.mk.inj (Option.some.inj got)
        obtain ⟨stop, rfl, present⟩ | ⟨value, rfl, stored, present⟩ := untilReady_eq_some ran
        · obtain ⟨_, begins, switched, ends⟩ := last present
          have unwoken := (off mid).woken.trans ends.unwoken
          cases stop with
          | panicked => cases ends
          | failed error =>
            obtain interrupted | ⟨rfl, ranOut⟩ := ends.failed begins switched
            · exact ⟨.interrupted interrupted, fun _ => unwoken⟩
            · exact ⟨.ranOut ranOut, fun _ => unwoken⟩
        · obtain ⟨_, -, -, ends⟩ := last present
          exact ⟨.ready (((off mid).values id).trans stored), fun _ => (off mid).woken.trans ends.unwoken⟩

end

end Run

end Testbench
