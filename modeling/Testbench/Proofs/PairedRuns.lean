import Testbench.Proofs.Leeway

/-! Two runs side by side. The worlds they start from are related, and the relation lasts through everything a hub does and
a task asks for: it is enough that it lasts through each of the operations. A relation that does is a simulation, and
carries whole runs along, and the moments on their way. -/

namespace Testbench

universe u

variable {ν σ : Type} {Q₁ Q₂ : Type 1} {α : Type} {leeway : Leeway ν σ} {R : World Q₁ ν σ → World Q₂ ν σ → Prop}

/-- The answers go together, and the worlds are related. -/
def Together (R : World Q₁ ν σ → World Q₂ ν σ → Prop) {α : Type u} (S : α → α → Prop) (first : α × World Q₁ ν σ)
    (second : α × World Q₂ ν σ) : Prop :=
  S first.1 second.1 ∧ R first.2 second.2

namespace Together

variable {α : Type u} {S : α → α → Prop} {first : α × World Q₁ ν σ} {second : α × World Q₂ ν σ}
  {motive : α × World Q₁ ν σ → α × World Q₂ ν σ → Prop}

@[elab_as_elim]
theorem elim (together : Together R S first second)
    (step : ∀ answer answer' world other, S answer answer' → R world other → motive (answer, world) (answer', other)) :
    motive first second :=
  step first.1 second.1 first.2 second.2 together.1 together.2

@[elab_as_elim]
theorem elim_eq (together : Together R Eq first second)
    (step : ∀ answer world other, R world other → motive (answer, world) (answer, other)) : motive first second :=
  together.elim fun answer _ world other same related => same ▸ step answer world other related

theorem follow (together : Together R S first second) {answer : α} {after : World Q₁ ν σ} (came : first = (answer, after)) :
    ∃ answer' other, second = (answer', other) ∧ S answer answer' ∧ R after other := by
  subst came
  exact ⟨second.1, second.2, rfl, together⟩

theorem follow_eq (together : Together R Eq first second) {answer : α} {after : World Q₁ ν σ}
    (came : first = (answer, after)) : ∃ other, second = (answer, other) ∧ R after other := by
  obtain ⟨_, other, rfl, rfl, related⟩ := together.follow came
  exact ⟨other, rfl, related⟩

end Together

/-- Neither run ends, or both do, and what they come to goes together. -/
abbrev RunsTogether (R : World Q₁ ν σ → World Q₂ ν σ → Prop) (S : α → α → Prop) (first : Option (α × World Q₁ ν σ))
    (second : Option (α × World Q₂ ν σ)) : Prop :=
  Option.Rel (Together R S) first second

namespace RunsTogether

variable {S : α → α → Prop} {first : Option (α × World Q₁ ν σ)} {second : Option (α × World Q₂ ν σ)}
  {motive : Option (α × World Q₁ ν σ) → Option (α × World Q₂ ν σ) → Prop}

@[elab_as_elim]
theorem elim (together : RunsTogether R S first second) (unfinished : motive none none)
    (finished : ∀ answer answer' first second, S answer answer' → R first second →
      motive (some (answer, first)) (some (answer', second))) : motive first second := by
  cases together with
  | none => exact unfinished
  | some together => exact finished _ _ _ _ together.1 together.2

@[elab_as_elim]
theorem elim_eq (together : RunsTogether R Eq first second) (unfinished : motive none none)
    (finished : ∀ answer first second, R first second → motive (some (answer, first)) (some (answer, second))) :
    motive first second :=
  together.elim unfinished fun answer _ first second same related => same ▸ finished answer first second related

theorem follow (together : RunsTogether R S first second) {answer : α} {after : World Q₁ ν σ}
    (came : first = some (answer, after)) :
    ∃ answer' other, second = some (answer', other) ∧ S answer answer' ∧ R after other := by
  subst came
  cases together with
  | some together => exact ⟨_, _, rfl, together⟩

end RunsTogether

variable [TimerQueue (Action ν σ) Q₁] [TimerQueue (Action ν σ) Q₂]

/-- What tasks share can be looked at and changed in both worlds. -/
structure Sharing (leeway : Leeway ν σ) (R : World Q₁ ν σ → World Q₂ ν σ → Prop) : Prop where
  isArmed {first : World Q₁ ν σ} {second : World Q₂ ν σ} (related : R first second) (timer : Nat) :
    first.isArmed timer = second.isArmed timer
  timers {first : World Q₁ ν σ} {second : World Q₂ ν σ} (related : R first second) : first.timers = second.timers
  event {first : World Q₁ ν σ} {second : World Q₂ ν σ} (related : R first second) (id : EventId) :
    first.event id = second.event id
  result {first : World Q₁ ν σ} {second : World Q₂ ν σ} (related : R first second) (id : ResultId) :
    SameResult leeway.value (first.result id) (second.result id)
  setTimers {first : World Q₁ ν σ} {second : World Q₂ ν σ} (related : R first second) (timers : Registry Nat Nat) :
    R { first with timers } { second with timers }
  setEventState {first : World Q₁ ν σ} {second : World Q₂ ν σ} (related : R first second) (id : EventId) (event : Event) :
    R (first.setEventState id event) (second.setEventState id event)
  setResultState {first : World Q₁ ν σ} {second : World Q₂ ν σ} (related : R first second) (id : ResultId)
    {result result' : AsyncResult ν} (same : SameResult leeway.value result result') :
    R (first.setResultState id result) (second.setResultState id result')
  wake {first : World Q₁ ν σ} {second : World Q₂ ν σ} (related : R first second) : R first.wake second.wake

namespace Sharing

variable (sharing : Sharing leeway R) {first : World Q₁ ν σ} {second : World Q₂ ν σ} (related : R first second)

include sharing related

theorem isPending (timeout : Timeout) : first.isPending timeout = second.isPending timeout := by
  unfold World.isPending
  rw [sharing.timers related]
  exact congrArg (Option.any · (second.timers.get? timeout.id)) (funext (sharing.isArmed related))

theorem setEvent (id : EventId) : R (first.setEvent id) (second.setEvent id) := by
  have flagged := sharing.setEventState related id { first.event id with isSet := true }
  simp only [World.setEvent, ← sharing.event related id]
  split
  · exact sharing.wake flagged
  · exact flagged

theorem addEventWaiter (id : EventId) : R (first.addEventWaiter id) (second.addEventWaiter id) := by
  simp only [World.addEventWaiter, ← sharing.event related id]
  exact sharing.setEventState related id _

theorem removeEventWaiter (id : EventId) : R (first.removeEventWaiter id) (second.removeEventWaiter id) := by
  simp only [World.removeEventWaiter, ← sharing.event related id]
  exact sharing.setEventState related id _

theorem complete (id : ResultId) {value value' : Except HubError ν} (handed : Handed leeway.value value value') :
    R (first.complete id value) (second.complete id value') := by
  have waiters := (sharing.result related id).waiters
  have same : SameResult leeway.value { first.result id with value := some value }
      { second.result id with value := some value' } := ⟨waiters, .some handed⟩
  have stored := sharing.setResultState related id same
  unfold World.complete
  dsimp only
  by_cases waits : (first.result id).waiters > 0
  · rw [if_pos waits, if_pos (waiters ▸ waits)]
    exact sharing.wake stored
  · rw [if_neg waits, if_neg (waiters ▸ waits)]
    exact stored

theorem addResultWaiter (id : ResultId) : R (first.addResultWaiter id) (second.addResultWaiter id) :=
  have same := sharing.result related id
  sharing.setResultState related id ⟨congrArg (· + 1) same.waiters, same.value⟩

theorem removeResultWaiter (id : ResultId) : R (first.removeResultWaiter id) (second.removeResultWaiter id) :=
  have same := sharing.result related id
  sharing.setResultState related id ⟨congrArg (· - 1) same.waiters, same.value⟩

end Sharing

/-- The same timers go off in both worlds, with actions that go together, and what is asked for is answered together. -/
structure Simulation (leeway : Leeway ν σ) (R : World Q₁ ν σ → World Q₂ ν σ → Prop) : Prop extends Sharing leeway R where
  woken {first : World Q₁ ν σ} {second : World Q₂ ν σ} (related : R first second) : first.hub.woken = second.hub.woken
  inCallback {first : World Q₁ ν σ} {second : World Q₂ ν σ} (related : R first second) :
    first.hub.inCallback = second.hub.inCallback
  schedule {first : World Q₁ ν σ} {second : World Q₂ ν σ} (related : R first second) (after : Nat)
    {action action' : Action ν σ} (same : SameAction leeway action action') :
    Together R Eq (first.schedule after action) (second.schedule after action')
  cancel {first : World Q₁ ν σ} {second : World Q₂ ν σ} (related : R first second) (timer : Nat) :
    Together R Eq (first.cancel timer) (second.cancel timer)
  newTimeout {first : World Q₁ ν σ} {second : World Q₂ ν σ} (related : R first second) (after : Option Nat) :
    Together R Eq (first.newTimeout after) (second.newTimeout after)
  beginSwitch {first : World Q₁ ν σ} {second : World Q₂ ν σ} (related : R first second) :
    R first.beginSwitch second.beginSwitch
  clearWoken {first : World Q₁ ν σ} {second : World Q₂ ν σ} (related : R first second) : R first.clearWoken second.clearWoken
  setInCallback {first : World Q₁ ν σ} {second : World Q₂ ν σ} (related : R first second) (inCallback : Bool) :
    R (first.setInCallback inCallback) (second.setInCallback inCallback)
  takeNext {first : World Q₁ ν σ} {second : World Q₂ ν σ} (related : R first second) :
    Together R (Option.Rel fun timer timer' => timer.1 = timer'.1 ∧ SameAction leeway timer.2 timer'.2) first.takeNext
      second.takeNext
  arrive {first : World Q₁ ν σ} {second : World Q₂ ν σ} (related : R first second) (alarm : Alarm) :
    R (first.arrive alarm) (second.arrive alarm)
  reportFailure {first : World Q₁ ν σ} {second : World Q₂ ν σ} (related : R first second) (label : String)
    (error : HubError) : R (first.reportFailure label error) (second.reportFailure label error)
  /-- A request that neither switches nor is about timers. -/
  others {first : World Q₁ ν σ} {second : World Q₂ ν σ} (related : R first second) {turns : Nat}
    {switch₁ : Run.Switch Q₁ ν σ} {switch₂ : Run.Switch Q₂ ν σ} {α : Type} {S : α → α → Prop} {asked asked' : Request ν σ α}
    (matched : asked.Matched leeway S asked') (other : asked.ofTimers = false) :
    RunsTogether R S (Run.answer turns switch₁ asked first) (Run.answer turns switch₂ asked' second)

namespace Run

/-- The switches take related worlds to related worlds. -/
abbrev SwitchesTogether (R : World Q₁ ν σ → World Q₂ ν σ → Prop) (switch₁ : Switch Q₁ ν σ) (switch₂ : Switch Q₂ ν σ) :
    Prop :=
  ∀ world other, R world other → RunsTogether R Eq (switch₁ world) (switch₂ other)

/-- Turns that end alike, or come back to the head of the loop with related worlds. -/
inductive TurnsTogether (R : World Q₁ ν σ → World Q₂ ν σ → Prop) : Turn Q₁ ν σ → Turn Q₂ ν σ → Prop where
  | leaves (ending : Ending) {world : World Q₁ ν σ} {other : World Q₂ ν σ} (related : R world other) :
      TurnsTogether R (.leaves ending world) (.leaves ending other)
  | stays {world : World Q₁ ν σ} {other : World Q₂ ν σ} (related : R world other) :
      TurnsTogether R (.stays world) (.stays other)

/-- What the first comes by, the second comes by too. -/
abbrev MeetingsTogether (R : World Q₁ ν σ → World Q₂ ν σ → Prop) (during₁ : Meeting Q₁ ν σ) (during₂ : Meeting Q₂ ν σ) :
    Prop :=
  ∀ world other moment, R world other → during₁ world moment → ∃ match', during₂ other match' ∧ R moment match'

end Run

namespace Simulation

open Run

variable (simulation : Simulation leeway R)

include simulation

section

variable {first : World Q₁ ν σ} {second : World Q₂ ν σ} (related : R first second)

include related

theorem cancelTimeout (timeout : Timeout) :
    Together R Eq (first.cancelTimeout timeout) (second.cancelTimeout timeout) := by
  have erased := simulation.setTimers related (first.timers.erase timeout.id)
  unfold World.cancelTimeout
  rw [← simulation.timers related]
  split
  · exact ⟨rfl, related⟩
  · exact simulation.cancel erased _

theorem startTimeout (timeout : Timeout) : Together R Eq (first.startTimeout timeout) (second.startTimeout timeout) := by
  unfold World.startTimeout
  have stopped := (simulation.cancelTimeout related timeout).2
  cases timeout.after with
  | none => exact ⟨rfl, stopped⟩
  | some after =>
    simp only
    refine (simulation.schedule stopped after (.raise timeout.error)).elim_eq fun answer first second scheduled => ?_
    cases answer with
    | error panic => exact ⟨rfl, scheduled⟩
    | ok timer =>
      simp only [← simulation.timers scheduled]
      exact ⟨rfl, simulation.setTimers scheduled _⟩

theorem startLimit (limit : WaitLimit) : Together R Eq (first.startLimit limit) (second.startLimit limit) := by
  cases limit with
  | never => exact ⟨rfl, related⟩
  | after duration =>
    simp only [World.startLimit]
    refine (simulation.newTimeout related (some duration)).elim_eq fun timeout first second made => ?_
    exact (simulation.startTimeout made timeout).elim_eq fun started first second begun => ⟨rfl, begun⟩
  | under timeout =>
    simp only [World.startLimit, ← simulation.isPending related timeout]
    split
    · exact ⟨rfl, related⟩
    · exact (simulation.startTimeout related timeout).elim_eq fun started first second begun => ⟨rfl, begun⟩

theorem endLimit (timeout : Option Timeout) : R (first.endLimit timeout) (second.endLimit timeout) := by
  cases timeout with
  | none => exact related
  | some timeout => exact (simulation.cancelTimeout related timeout).2

theorem takeNext_call {alarm : Alarm} {label : String} {callback : Callback ν σ} {rest : World Q₁ ν σ}
    (found : first.takeNext = (some (alarm, .call label callback), rest)) :
    ∃ callback' rest', second.takeNext = (some (alarm, .call label callback'), rest') ∧
      Program.Unswayed leeway Eq callback callback' ∧ R rest rest' := by
  obtain ⟨_, rest', found', same, left⟩ := (simulation.takeNext related).follow found
  cases same with
  | @some _ timer' same =>
    obtain ⟨alarm', action'⟩ := timer'
    obtain ⟨rfl, same⟩ : alarm = alarm' ∧ SameAction leeway (.call label callback) action' := same
    cases same with
    | call _ called => exact ⟨_, _, found', called, left⟩

end

section

variable {switch₁ : Switch Q₁ ν σ} {switch₂ : Switch Q₂ ν σ} (switches : SwitchesTogether R switch₁ switch₂)
  {first : World Q₁ ν σ} {second : World Q₂ ν σ}

include switches

theorem untilSet (id : EventId) (turns : Nat) (related : R first second) :
    RunsTogether R Eq (Run.untilSet switch₁ id turns first) (Run.untilSet switch₂ id turns second) := by
  induction turns generalizing first second with
  | zero => exact .none
  | succ turns ih =>
    simp only [Run.untilSet]
    refine (switches _ _ related).elim_eq .none fun answer first second related => ?_
    cases answer with
    | error stop => exact .some ⟨rfl, related⟩
    | ok _ =>
      simp only [← simulation.event related id]
      split
      · exact .some ⟨rfl, related⟩
      · exact ih related

theorem untilReady (id : ResultId) (turns : Nat) (related : R first second) :
    RunsTogether R (Handed leeway.value) (Run.untilReady switch₁ id turns first)
      (Run.untilReady switch₂ id turns second) := by
  induction turns generalizing first second with
  | zero => exact .none
  | succ turns ih =>
    simp only [Run.untilReady]
    refine (switches _ _ related).elim_eq .none fun answer first second related => ?_
    cases answer with
    | error stop => exact .some ⟨.error stop, related⟩
    | ok _ =>
      have values := (simulation.result related id).value
      dsimp only
      generalize (first.result id).value = value, (second.result id).value = value' at values ⊢
      cases values with
      | none => exact ih related
      | some handed => exact .some ⟨handed.mapError Stop.failed, related⟩

theorem sleep (after : Nat) (related : R first second) :
    RunsTogether R Eq (Run.sleep switch₁ after first) (Run.sleep switch₂ after second) := by
  unfold Run.sleep
  refine (simulation.schedule related after .wake).elim_eq fun answer first second related => ?_
  cases answer with
  | error panic => exact .some ⟨rfl, related⟩
  | ok timer =>
    simp only
    refine (switches _ _ related).elim_eq .none fun answer first second related => ?_
    rcases answer with (error | panic) | _
    · exact .some ⟨rfl, (simulation.cancel related timer).2⟩
    · exact .some ⟨rfl, related⟩
    · exact .some ⟨rfl, (simulation.cancel related timer).2⟩

theorem wait (turns : Nat) (id : EventId) (limit : WaitLimit) (related : R first second) :
    RunsTogether R Eq (Run.wait turns switch₁ id limit first) (Run.wait turns switch₂ id limit second) := by
  simp only [Run.wait, ← simulation.event related id]
  split
  · exact .some ⟨rfl, related⟩
  refine (simulation.startLimit related limit).elim_eq fun answer first second related => ?_
  cases answer with
  | error panic => exact .some ⟨rfl, related⟩
  | ok timeout =>
    simp only
    refine (simulation.untilSet switches id turns (simulation.addEventWaiter related id)).elim_eq .none ?_
    intro answer first second related
    have signedOff := simulation.removeEventWaiter related id
    rcases answer with (error | panic) | _
    · simp only
      split
      · exact .some ⟨rfl, simulation.endLimit signedOff timeout⟩
      · exact .some ⟨rfl, simulation.endLimit signedOff timeout⟩
    · exact .some ⟨rfl, simulation.endLimit related timeout⟩
    · exact .some ⟨rfl, simulation.endLimit signedOff timeout⟩

theorem get (turns : Nat) (id : ResultId) (limit : WaitLimit) (related : R first second) :
    RunsTogether R (Handed leeway.value) (Run.get turns switch₁ id limit first)
      (Run.get turns switch₂ id limit second) := by
  have values := (simulation.result related id).value
  unfold Run.get
  generalize (first.result id).value = value, (second.result id).value = value' at values ⊢
  cases values with
  | some handed => exact .some ⟨handed.mapError Stop.failed, related⟩
  | none =>
    dsimp only
    refine (simulation.startLimit related limit).elim_eq fun answer first second related => ?_
    cases answer with
    | error panic => exact .some ⟨.error _, related⟩
    | ok timeout =>
      dsimp only
      refine (simulation.untilReady switches id turns (simulation.addResultWaiter related id)).elim .none ?_
      intro answer answer' first second handed related
      have signedOff := simulation.removeResultWaiter related id
      cases handed with
      | ok same => exact .some ⟨.ok same, simulation.endLimit signedOff timeout⟩
      | error stop =>
        cases stop with
        | failed error => exact .some ⟨.error _, simulation.endLimit signedOff timeout⟩
        | panicked panic => exact .some ⟨.error _, simulation.endLimit related timeout⟩

theorem answer (turns : Nat) {S : α → α → Prop} {asked asked' : Request ν σ α} (matched : asked.Matched leeway S asked')
    (related : R first second) :
    RunsTogether R S (Run.answer turns switch₁ asked first) (Run.answer turns switch₂ asked' second) := by
  cases timed : asked.ofTimers with
  | false => exact simulation.others related matched timed
  | true =>
    cases matched with
    | complete | store => cases timed
    | get result limit => exact simulation.get switches turns result limit related
    | plain =>
      cases asked with
      | switch => exact switches _ _ related
      | sleep after => exact simulation.sleep switches after related
      | wait event limit => exact simulation.wait switches turns event limit related
      | newTimeout after => exact .some (simulation.newTimeout related after)
      | startTimeout timeout => exact .some (simulation.startTimeout related timeout)
      | cancelTimeout timeout => exact .some (simulation.cancelTimeout related timeout)
      | hub request =>
        cases request with
        | schedule after signal =>
          have same : SameAction leeway signal.action signal.action := by
            cases signal with
            | wake => exact .wake
            | raise error => exact .raise error
          exact .some (simulation.schedule related after same)
        | cancel timer => exact .some (simulation.cancel related timer)
        | _ => cases timed
      | _ => contradiction
    | _ => cases timed

theorem program (turns : Nat) {S : α → α → Prop} {program program' : Program ν σ α}
    (unswayed : program.Unswayed leeway S program') (related : R first second) :
    RunsTogether R S (Run.program turns switch₁ program first) (Run.program turns switch₂ program' second) := by
  induction unswayed generalizing first second with
  | pure same => exact .some ⟨same, related⟩
  | request matched _ ih =>
    simp only [Run.program]
    refine (simulation.answer switches turns matched related).elim .none ?_
    exact fun reply reply' first second same related => ih reply reply' same related
  | call after label called _ _ ih =>
    simp only [Run.program]
    exact (simulation.schedule related after (.call label called)).elim_eq fun reply first second related => ih reply related

theorem guarded : SwitchesTogether R (Run.guarded switch₁) (Run.guarded switch₂) := by
  intro first second related
  have begun := simulation.beginSwitch related
  simp only [Run.guarded, ← simulation.inCallback begun]
  split
  · exact .some ⟨rfl, begun⟩
  · exact switches _ _ begun

end

theorem turn (turns : Nat) (loops : SwitchesTogether R (Run.loop turns) (Run.loop turns)) {first : World Q₁ ν σ}
    {second : World Q₂ ν σ} (related : R first second) :
    Option.Rel (TurnsTogether R) (Run.turn turns first) (Run.turn turns second) := by
  simp only [Run.turn, ← simulation.woken related]
  split
  · exact .some (.leaves _ (simulation.clearWoken related))
  refine (simulation.takeNext related).elim fun found found' first second same related => ?_
  cases same with
  | none => exact .some (.leaves _ related)
  | @some timer timer' same =>
    obtain ⟨alarm, action⟩ := timer
    obtain ⟨alarm', action'⟩ := timer'
    obtain ⟨rfl, same⟩ : alarm = alarm' ∧ SameAction leeway action action' := same
    have arrived := simulation.arrive related alarm
    cases same with
    | wake => exact .some (.stays (simulation.wake arrived))
    | raise error => exact .some (.leaves _ arrived)
    | call label called =>
      simp only [fire]
      have begun := simulation.setInCallback arrived true
      refine (simulation.program (simulation.guarded loops) turns called begun).elim_eq .none ?_
      intro answer first second related
      have ended := simulation.setInCallback related false
      rcases answer with (error | panic) | _
      · exact .some (.stays (simulation.reportFailure ended label error))
      · exact .some (.leaves _ ended)
      · exact .some (.stays ended)

theorem loop (turns : Nat) : SwitchesTogether R (Run.loop turns) (Run.loop turns) := by
  induction turns with
  | zero => exact fun _ _ _ => .none
  | succ turns ih =>
    intro first second related
    rw [loop_succ, loop_succ]
    have taken := simulation.turn turns ih related
    revert taken
    rcases Run.turn turns first with _ | first <;> rcases Run.turn turns second with _ | second <;> intro taken <;> cases taken
    · exact .none
    next taken =>
      cases taken with
      | leaves ending related => exact .some ⟨rfl, related⟩
      | stays related => exact ih _ _ related

theorem switch (turns : Nat) : SwitchesTogether R (Run.switch turns) (Run.switch turns) :=
  simulation.guarded (simulation.loop turns)

/-- Programs that ask for the same come to related ends. -/
theorem run (turns : Nat) {S : α → α → Prop} {program program' : Program ν σ α}
    (unswayed : program.Unswayed leeway S program') {first : World Q₁ ν σ} {second : World Q₂ ν σ} (related : R first second) :
    RunsTogether R S (program.run turns first) (program'.run turns second) :=
  simulation.program (simulation.switch turns) turns unswayed related

/-! The moments on the way. -/

section

variable {turns : Nat} {switch₁ : Switch Q₁ ν σ} {switch₂ : Switch Q₂ ν σ} (switches : SwitchesTogether R switch₁ switch₂)
  {during₁ : Meeting Q₁ ν σ} {during₂ : Meeting Q₂ ν σ} (meetings : MeetingsTogether R during₁ during₂)
  {first moment : World Q₁ ν σ} {second : World Q₂ ν σ}

include switches meetings

omit simulation [TimerQueue (Action ν σ) Q₁] [TimerQueue (Action ν σ) Q₂] in
theorem meetsUntil {done₁ : World Q₁ ν σ → Bool} {done₂ : World Q₂ ν σ → Bool}
    (same : ∀ world other, R world other → done₁ world = done₂ other) {left : Nat}
    (met : MeetsUntil switch₁ during₁ done₁ left first moment) (related : R first second) :
    ∃ other, MeetsUntil switch₂ during₂ done₂ left second other ∧ R moment other := by
  induction met generalizing second with
  | within met =>
    obtain ⟨other, met, agreed⟩ := meetings _ _ _ related met
    exact ⟨other, .within met, agreed⟩
  | again switched undone _ ih =>
    obtain ⟨_, after, switched, rfl, related⟩ := (switches _ _ related).follow switched
    obtain ⟨other, rest, agreed⟩ := ih related
    exact ⟨other, .again switched (same _ _ related ▸ undone) rest, agreed⟩

theorem meetsIn {S : α → α → Prop} {asked asked' : Request ν σ α} (matched : asked.Matched leeway S asked')
    (met : MeetsIn turns switch₁ during₁ asked first moment) (related : R first second) :
    ∃ other, MeetsIn turns switch₂ during₂ asked' second other ∧ R moment other := by
  cases met with
  | switch met =>
    obtain rfl := matched.eq_of_timers rfl
    obtain ⟨other, met, agreed⟩ := meetings _ _ _ related met
    exact ⟨other, .switch met, agreed⟩
  | sleep scheduled met =>
    obtain rfl := matched.eq_of_timers rfl
    obtain ⟨armed, scheduled, related⟩ := (simulation.schedule related _ .wake).follow_eq scheduled
    obtain ⟨other, met, agreed⟩ := meetings _ _ _ related met
    exact ⟨other, .sleep scheduled met, agreed⟩
  | @wait id _ _ _ _ _ unset start met =>
    obtain rfl := matched.eq_of_timers rfl
    obtain ⟨started, start, begun⟩ := (simulation.startLimit related _).follow_eq start
    have done (world : World Q₁ ν σ) (other : World Q₂ ν σ) (related : R world other) :
        (world.event id).isSet = (other.event id).isSet := congrArg Event.isSet (simulation.event related id)
    obtain ⟨other, met, agreed⟩ := meetsUntil switches meetings done met (simulation.addEventWaiter begun id)
    exact ⟨other, .wait (done _ _ related ▸ unset) start met, agreed⟩
  | @get id _ _ _ _ _ unready start met =>
    obtain rfl := matched.eq_of_timers rfl
    obtain ⟨started, start, begun⟩ := (simulation.startLimit related _).follow_eq start
    have done (world : World Q₁ ν σ) (other : World Q₂ ν σ) (related : R world other) :
        (world.result id).isReady = (other.result id).isReady := (simulation.result related id).isReady
    obtain ⟨other, met, agreed⟩ := meetsUntil switches meetings done met (simulation.addResultWaiter begun id)
    exact ⟨other, .get (done _ _ related ▸ unready) start met, agreed⟩

theorem meetsProgram {S : α → α → Prop} {program program' : Program ν σ α}
    (met : Meets turns switch₁ during₁ program first moment) (unswayed : program.Unswayed leeway S program')
    (related : R first second) : ∃ other, Meets turns switch₂ during₂ program' second other ∧ R moment other := by
  induction unswayed generalizing first second with
  | pure _ =>
    cases met
    exact ⟨second, .here, related⟩
  | request matched _ ih =>
    cases met with
    | here => exact ⟨second, .here, related⟩
    | inside met =>
      obtain ⟨other, met, agreed⟩ := simulation.meetsIn switches meetings matched met related
      exact ⟨other, .inside met, agreed⟩
    | request answered rest =>
      obtain ⟨_, after, answered, same, related⟩ := (simulation.answer switches turns matched related).follow answered
      obtain ⟨other, rest, agreed⟩ := ih _ _ same rest related
      exact ⟨other, .request answered rest, agreed⟩
  | call after label called _ _ ih =>
    cases met with
    | here => exact ⟨second, .here, related⟩
    | call scheduled rest =>
      obtain ⟨armed, scheduled, related⟩ := (simulation.schedule related after (.call label called)).follow_eq scheduled
      obtain ⟨other, rest, agreed⟩ := ih _ rest related
      exact ⟨other, .call scheduled rest, agreed⟩

omit switches in
theorem guardedMeets : MeetingsTogether R (Run.guardedMeets during₁) (Run.guardedMeets during₂) := by
  intro world other moment related met
  obtain ⟨allowed, met⟩ := met
  have begun := simulation.beginSwitch related
  obtain ⟨found, met, agreed⟩ := meetings _ _ _ begun met
  exact ⟨found, ⟨simulation.inCallback begun ▸ allowed, met⟩, agreed⟩

end

theorem loopMeets (turns : Nat) : MeetingsTogether R (Run.loopMeets turns) (Run.loopMeets turns) := by
  induction turns with
  | zero => exact fun _ _ _ _ met => met.elim
  | succ turns ih =>
    intro world other moment related met
    obtain rfl | ⟨asleep, alarm, label, callback, rest, found, met⟩ | ⟨next, stayed, met⟩ := met
    · exact ⟨other, .inl rfl, related⟩
    · obtain ⟨callback', rest', found', called, taken⟩ := simulation.takeNext_call related found
      have begun := simulation.setInCallback (simulation.arrive taken alarm) true
      obtain ⟨match', met, agreed⟩ := simulation.meetsProgram (simulation.guarded (simulation.loop turns))
        (simulation.guardedMeets ih) met called begun
      exact ⟨match', .inr (.inl ⟨simulation.woken related ▸ asleep, alarm, label, callback', rest', found', met⟩), agreed⟩
    · have taken := simulation.turn turns (simulation.loop turns) related
      rw [stayed] at taken
      generalize same : Run.turn turns other = turned at taken
      cases taken with
      | some taken => cases taken with
        | stays related =>
          obtain ⟨found, met, agreed⟩ := ih _ _ _ related met
          exact ⟨found, .inr (.inr ⟨_, same, met⟩), agreed⟩

theorem meets {turns : Nat} {S : α → α → Prop} {program program' : Program ν σ α} {first moment : World Q₁ ν σ}
    {second : World Q₂ ν σ} (met : program.Meets turns first moment) (unswayed : program.Unswayed leeway S program')
    (related : R first second) : ∃ other, program'.Meets turns second other ∧ R moment other :=
  simulation.meetsProgram (simulation.switch turns) (simulation.guardedMeets (simulation.loopMeets turns)) met unswayed
    related

end Simulation

end Testbench
