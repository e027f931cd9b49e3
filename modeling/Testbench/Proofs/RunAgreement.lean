import Testbench.Proofs.PairedRuns
import Testbench.Proofs.QueueLaws

/-! Two hubs whose queues hold the same timers cannot be told apart. They may keep these timers in any way,
with any number of stale alarms, and tidy up whenever they like: no program gets to see it. -/

namespace Testbench

open LawfulQueue (armed Sound)

variable {ν σ : Type} {Q₁ Q₂ : Type 1} {α : Type}

/-- The same world with another queue, and with leave to tidy up or without. -/
def World.over (world : World Q₁ ν σ) (queue : Q₂) (reclaim : Bool) : World Q₂ ν σ :=
  { world with hub := { world.hub with queue, reclaim } }

variable [TimerQueue (Action ν σ) Q₁] [LawfulQueue Q₁] [TimerQueue (Action ν σ) Q₂] [LawfulQueue Q₂]

/-- The worlds differ in their queues and in the leave to tidy up at most, and the queues hold the same timers. -/
inductive Alike : World Q₁ ν σ → World Q₂ ν σ → Prop where
  | intro {world : World Q₁ ν σ} {queue : Q₂} (reclaim : Bool) (sound : Sound world.hub.nextTimer world.hub.queue)
      (other : Sound world.hub.nextTimer queue) (same : (armed world.hub.queue).Perm (armed queue)) :
      Alike world (world.over queue reclaim)

/-- Of the same timers the same is first. -/
private theorem perm_cons_least {timer timer' : Alarm × Action ν σ} {rest rest' : List (Alarm × Action ν σ)}
    (same : (timer :: rest).Perm (timer' :: rest')) (least : ∀ other ∈ rest, timer.1 < other.1)
    (least' : ∀ other ∈ rest', timer'.1 < other.1) : timer = timer' ∧ rest.Perm rest' := by
  obtain rfl | later := List.mem_cons.mp (same.mem_iff.mp (List.mem_cons_self ..))
  · exact ⟨rfl, same.cons_inv⟩
  obtain rfl | later' := List.mem_cons.mp (same.mem_iff.mpr (List.mem_cons_self ..))
  · exact ⟨rfl, same.cons_inv⟩
  · exact (Alarm.lt_irrefl _ (Alarm.lt_trans (least _ later') (least' _ later))).elim

namespace Alike

variable {first : World Q₁ ν σ} {second : World Q₂ ν σ}

theorem front (alike : Alike first second) : first.front = second.front := by cases alike; rfl

theorem isArmed (alike : Alike first second) (timer : Nat) : first.isArmed timer = second.isArmed timer := by
  obtain ⟨reclaim, sound, other, same⟩ := alike
  apply Bool.eq_iff_iff.mpr
  refine (LawfulQueue.isArmed_iff timer sound).trans (.trans ?_ (LawfulQueue.isArmed_iff timer other).symm)
  exact exists_congr fun timer => and_congr_left fun _ => same.mem_iff

theorem liveHandles (alike : Alike first second) : first.liveHandles = second.liveHandles := by
  obtain ⟨reclaim, sound, other, same⟩ := alike
  have count := (LawfulQueue.armedCount_eq sound).trans (same.length_eq.trans (LawfulQueue.armedCount_eq other).symm)
  exact congrArg (fun count : Nat => (count : Int) + first.hub.handles) count

/-- An update that leaves queue and numbers alone, and does not look at them. -/
private theorem aside (alike : Alike first second) {first' : World Q₁ ν σ} {second' : World Q₂ ν σ}
    (queue : first'.hub.queue = first.hub.queue) (numbers : first'.hub.nextTimer = first.hub.nextTimer)
    (same : ∀ queue reclaim, second = first.over queue reclaim → second' = first'.over queue reclaim) :
    Alike first' second' := by
  obtain ⟨reclaim, sound, other, armed⟩ := alike
  rw [same _ _ rfl]
  exact .intro reclaim (by rwa [queue, numbers]) (by rwa [numbers]) (by rwa [queue])

theorem schedule (alike : Alike first second) (after : Nat) (action : Action ν σ) :
    Together Alike Eq (first.schedule after action) (second.schedule after action) := by
  obtain ⟨reclaim, sound, other, same⟩ := alike
  unfold World.schedule
  simp only [World.over, World.updateNow]
  split
  · exact ⟨rfl, .intro reclaim (LawfulQueue.sound_skip sound) (LawfulQueue.sound_skip other) same⟩
  next deadline _ =>
    refine ⟨rfl, .intro reclaim (LawfulQueue.sound_arm deadline action sound)
      (LawfulQueue.sound_arm deadline action other) ?_⟩
    exact (LawfulQueue.armed_arm deadline action sound).trans
      ((same.cons _).trans (LawfulQueue.armed_arm deadline action other).symm)

theorem cancel (alike : Alike first second) (timer : Nat) :
    Together Alike Eq (first.cancel timer) (second.cancel timer) := by
  have answer := alike.isArmed timer
  obtain ⟨reclaim, sound, other, same⟩ := alike
  change TimerQueue.isArmed _ _ = TimerQueue.isArmed _ _ at answer
  unfold World.cancel
  simp only [World.over] at answer ⊢
  split
  next refused =>
    rw [LawfulQueue.cancel_none sound refused] at answer
    split
    · exact ⟨rfl, .intro reclaim sound other same⟩
    next cancelled =>
      rw [(LawfulQueue.cancel_some other cancelled).1] at answer
      cases answer
  next rest cancelled =>
    obtain ⟨isArmed, restSound, left⟩ := LawfulQueue.cancel_some sound cancelled
    split
    next refused =>
      rw [isArmed, LawfulQueue.cancel_none other refused] at answer
      cases answer
    next cancelledOther =>
      obtain ⟨_, otherSound, otherLeft⟩ := LawfulQueue.cancel_some other cancelledOther
      exact ⟨rfl, .intro reclaim restSound otherSound (left.trans ((same.filter _).trans otherLeft.symm))⟩

theorem beginSwitch (alike : Alike first second) : Alike first.beginSwitch second.beginSwitch := by
  have front := alike.front.symm
  unfold World.beginSwitch
  rw [front]
  split <;> exact alike.aside rfl rfl fun _ _ same => by subst same; rfl

/-- The same timer is first in both queues. -/
theorem takeNext (alike : Alike first second) : Together Alike Eq first.takeNext second.takeNext := by
  obtain ⟨reclaim, sound, other, same⟩ := alike
  simp only [World.takeNext, World.over]
  rcases taken : TimerQueue.next first.hub.queue first.hub.reclaim with ⟨_ | timer, rest⟩ <;>
    rcases takenOther : TimerQueue.next _ reclaim with ⟨_ | timer', rest'⟩
  · obtain ⟨restSound, _, none⟩ := LawfulQueue.next_none sound taken
    obtain ⟨restSound', _, none'⟩ := LawfulQueue.next_none other takenOther
    exact ⟨rfl, .intro reclaim restSound restSound' (List.Perm.of_eq (none.trans none'.symm))⟩
  · obtain ⟨_, empty, _⟩ := LawfulQueue.next_none sound taken
    obtain ⟨_, left, _⟩ := LawfulQueue.next_some other takenOther
    cases (empty ▸ same.trans left).nil_eq
  · obtain ⟨_, left, _⟩ := LawfulQueue.next_some sound taken
    obtain ⟨_, empty, _⟩ := LawfulQueue.next_none other takenOther
    cases (empty ▸ left.symm.trans same).eq_nil
  · obtain ⟨restSound, left, least⟩ := LawfulQueue.next_some sound taken
    obtain ⟨restSound', left', least'⟩ := LawfulQueue.next_some other takenOther
    have both := left.symm.trans (same.trans left')
    obtain ⟨rfl, rests⟩ := perm_cons_least both least least'
    exact ⟨rfl, .intro reclaim restSound restSound' rests⟩

theorem sharing : Sharing .exact (Alike : World Q₁ ν σ → World Q₂ ν σ → Prop) where
  isArmed := isArmed
  timers alike := by cases alike; rfl
  event alike id := by cases alike; rfl
  result alike id := .of_eq (by cases alike; rfl)
  setTimers alike timers := alike.aside rfl rfl fun _ _ same => by subst same; rfl
  setEventState alike id event := alike.aside rfl rfl fun _ _ same => by subst same; rfl
  setResultState alike id result result' same := by
    cases same.eq
    exact alike.aside rfl rfl fun _ _ same => by subst same; rfl
  wake alike := alike.aside rfl rfl fun _ _ same => by subst same; rfl

/-- What is asked of the hub at once. -/
private theorem onHub (alike : Alike first second) {request : Hub.Request α}
    (other : (Request.hub request : Request ν σ α).ofTimers = false) :
    Together Alike Eq (first.onHub request) (second.onHub request) := by
  cases request with
  | schedule | cancel => cases other
  | isArmed timer => exact ⟨alike.isArmed timer, alike⟩
  | collect =>
    obtain ⟨reclaim, sound, other, same⟩ := alike
    exact ⟨rfl, .intro reclaim (LawfulQueue.sound_collect sound) (LawfulQueue.sound_collect other)
      ((LawfulQueue.armed_collect sound).trans (same.trans (LawfulQueue.armed_collect other).symm))⟩
  | liveHandles =>
    have live := alike.liveHandles
    obtain ⟨reclaim, sound, other, same⟩ := alike
    refine ⟨live, ?_⟩
    simp only [World.onHub, live]
    exact .intro reclaim sound other same
  | setReclaim enabled =>
    obtain ⟨reclaim, sound, other, same⟩ := alike
    exact ⟨rfl, .intro enabled sound other same⟩
  | now | updateNow | wake | switchCount | hasProbe | openHandle | closeHandle =>
    obtain ⟨reclaim, sound, other, same⟩ := alike
    exact ⟨rfl, .intro reclaim sound other same⟩

private theorem others (alike : Alike first second) {turns : Nat} {switch₁ : Run.Switch Q₁ ν σ}
    {switch₂ : Run.Switch Q₂ ν σ} {asked : Request ν σ α} (other : asked.ofTimers = false) :
    RunsTogether Alike Eq (Run.answer turns switch₁ asked first) (Run.answer turns switch₂ asked second) := by
  cases asked with
  | switch | sleep | wait | get | newTimeout | startTimeout | cancelTimeout => cases other
  | hub request => exact .some (alike.onHub other)
  | isPending timeout => exact .some ⟨sharing.isPending alike timeout, alike⟩
  | setEvent event => exact .some ⟨rfl, sharing.setEvent alike event⟩
  | complete result value => exact .some ⟨rfl, sharing.complete alike result (.of_eq rfl)⟩
  | _ =>
    obtain ⟨reclaim, sound, other, same⟩ := alike
    exact .some ⟨rfl, .intro reclaim sound other same⟩

theorem simulation : Simulation .exact (Alike : World Q₁ ν σ → World Q₂ ν σ → Prop) where
  toSharing := sharing
  woken alike := by cases alike; rfl
  inCallback alike := by cases alike; rfl
  schedule alike after action action' same := by
    cases same.eq
    exact alike.schedule after action
  cancel := cancel
  newTimeout alike after := by
    obtain ⟨reclaim, sound, other, same⟩ := alike
    exact ⟨rfl, .intro reclaim sound other same⟩
  beginSwitch := beginSwitch
  clearWoken alike := alike.aside rfl rfl fun _ _ same => by subst same; rfl
  setInCallback alike inCallback := alike.aside rfl rfl fun _ _ same => by subst same; rfl
  takeNext alike := by
    refine alike.takeNext.elim_eq fun found world other alike => ⟨?_, alike⟩
    cases found with
    | none => exact .none
    | some timer => exact .some ⟨rfl, .refl timer.2⟩
  arrive alike alarm := alike.aside rfl rfl fun _ _ same => by subst same; rfl
  reportFailure alike label error := alike.aside rfl rfl fun _ _ same => by subst same; rfl
  others alike turns switch₁ switch₂ α S asked asked' matched other := by
    obtain ⟨rfl, related⟩ := matched.eq_of_exact
    refine (alike.others other).elim_eq .none fun reply world world' alike => ?_
    exact .some ⟨related reply, alike⟩

end Alike

/-- A program cannot tell its hub from one that keeps the same timers in another way. -/
theorem Program.run_agrees (turns : Nat) (program : Program ν σ α) {first : World Q₁ ν σ} {second : World Q₂ ν σ}
    (alike : Alike first second) : RunsTogether Alike Eq (program.run turns first) (program.run turns second) :=
  Alike.simulation.run turns program.unswayed_exact alike

end Testbench
