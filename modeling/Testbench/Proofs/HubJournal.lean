import Testbench.Proofs.HubSteps
import Testbench.Proofs.QueueLaws

/-! The journal of the hub against its queue. Every timer ever armed is still armed, has fired or was
cancelled, and what fires is never before what has fired. A step of the hub keeps that so. -/

namespace Testbench

open LawfulQueue (armed Sound)

variable {ν σ : Type} {Q : Type 1}

structure Firing where
  alarm : Alarm
  since : Nat
  clock : Nat

namespace HubEvent

def arming? : HubEvent → Option Alarm
  | .armed alarm => some alarm
  | _ => none

def firing? : HubEvent → Option Firing
  | .fired alarm since clock => some ⟨alarm, since, clock⟩
  | _ => none

def cancelling? : HubEvent → Option Nat
  | .cancelled timer => some timer
  | _ => none

end HubEvent

namespace World

/-- All timers that were ever armed, latest first. -/
def scheduled (world : World Q ν σ) : List Alarm := world.hub.journal.filterMap HubEvent.arming?

def firings (world : World Q ν σ) : List Firing := world.hub.journal.filterMap HubEvent.firing?

def cancelled (world : World Q ν σ) : List Nat := world.hub.journal.filterMap HubEvent.cancelling?

variable [TimerQueue (Action ν σ) Q] [LawfulQueue Q] {world after : World Q ν σ}

/-- One timer taken from the rest by its number. -/
private theorem perm_cons_filter {α : Type 1} {timers : List (Alarm × α)} (distinct : timers.Pairwise (·.1.id ≠ ·.1.id))
    {timer : Alarm × α} (member : timer ∈ timers) : timers.Perm (timer :: timers.filter (·.1.id ≠ timer.1.id)) := by
  induction timers with
  | nil => cases member
  | cons first rest ih =>
    obtain ⟨apart, distinct⟩ := List.pairwise_cons.mp distinct
    obtain rfl | inside := List.mem_cons.mp member
    · have kept : rest.filter (·.1.id ≠ timer.1.id) = rest :=
        List.filter_eq_self.mpr fun other isOther => decide_eq_true (apart other isOther).symm
      rw [List.filter_cons_of_neg (by simp), kept]
    · rw [List.filter_cons_of_pos (by simpa using apart timer inside)]
      exact ((ih distinct inside).cons first).trans (.swap _ _ _)

structure Recorded (world : World Q ν σ) : Prop where
  sound : Sound world.hub.nextTimer world.hub.queue
  order : world.firings.Pairwise fun later earlier => earlier.alarm < later.alarm ∧ earlier.clock ≤ later.since
  clocks : ∀ firing ∈ world.firings, firing.clock = max firing.since firing.alarm.deadline ∧ firing.clock ≤ world.clock
  ahead : ∀ firing ∈ world.firings, ∀ timer ∈ armed world.hub.queue, firing.alarm < timer.1
  numbered : ∀ alarm ∈ world.scheduled, alarm.id < world.hub.nextTimer
  distinct : world.scheduled.Pairwise (·.id ≠ ·.id)
  /-- What was dropped is known by its numbers only. -/
  fates : ∃ dropped : List Alarm, dropped.map (·.id) = world.cancelled ∧
    world.scheduled.Perm ((armed world.hub.queue).map (·.1) ++ (world.firings.map (·.alarm) ++ dropped))

namespace Recorded

theorem fresh (front : Front) (memory : σ) :
    Recorded ({ hub := { queue := (TimerQueue.empty : Q) }, front, memory } : World Q ν σ) where
  sound := LawfulQueue.sound_empty
  order := List.Pairwise.nil
  clocks := fun _ impossible => by cases impossible
  ahead := fun _ impossible => by cases impossible
  numbered := fun _ impossible => by cases impossible
  distinct := List.Pairwise.nil
  fates := ⟨[], rfl, by simp [scheduled, firings, LawfulQueue.armed_empty]⟩

theorem carry (recorded : Recorded world) (sound : Sound after.hub.nextTimer after.hub.queue)
    (same : (armed after.hub.queue).Perm (armed world.hub.queue)) (clock : world.clock ≤ after.clock)
    (numbers : world.hub.nextTimer ≤ after.hub.nextTimer) (scheduled : after.scheduled = world.scheduled)
    (firings : after.firings = world.firings) (cancelled : after.cancelled = world.cancelled) : Recorded after where
  sound := sound
  order := by rw [firings]; exact recorded.order
  clocks firing member := by
    obtain ⟨reached, past⟩ := recorded.clocks firing (firings ▸ member)
    exact ⟨reached, Nat.le_trans past clock⟩
  ahead firing member timer isArmed := recorded.ahead firing (firings ▸ member) timer (same.mem_iff.mp isArmed)
  numbered alarm member := Nat.lt_of_lt_of_le (recorded.numbered alarm (scheduled ▸ member)) numbers
  distinct := by rw [scheduled]; exact recorded.distinct
  fates := by
    obtain ⟨dropped, numbersOf, onto⟩ := recorded.fates
    rw [scheduled, firings, cancelled]
    exact ⟨dropped, numbersOf, onto.trans ((same.symm.map _).append_right _)⟩

theorem keep (recorded : Recorded world) (queue : after.hub.queue = world.hub.queue)
    (numbers : after.hub.nextTimer = world.hub.nextTimer) (clock : world.clock ≤ after.clock)
    (scheduled : after.scheduled = world.scheduled) (firings : after.firings = world.firings)
    (cancelled : after.cancelled = world.cancelled) : Recorded after := by
  refine recorded.carry ?_ (.of_eq (congrArg armed queue)) clock (Nat.le_of_eq numbers.symm) scheduled firings cancelled
  rw [queue, numbers]
  exact recorded.sound

theorem fired_scheduled (recorded : Recorded world) : ∀ firing ∈ world.firings, firing.alarm ∈ world.scheduled := by
  intro firing member
  obtain ⟨dropped, -, onto⟩ := recorded.fates
  exact onto.mem_iff.mpr (List.mem_append_right _ (List.mem_append_left _ (List.mem_map_of_mem member)))

/-- A new timer is behind all that fired: it is due now at the earliest, and its number is the highest yet. -/
theorem schedule (recorded : Recorded world) (delay : Nat) (action : Action ν σ) : Recorded (world.schedule delay action).2 := by
  have renumbered := LawfulQueue.sound_skip recorded.sound
  unfold World.schedule
  cases due : deadline? world.clock delay with
  | none =>
    simp only [updateNow, due]
    exact recorded.carry renumbered (.refl _) (Nat.le_refl _) (Nat.le_succ _) rfl rfl rfl
  | some deadline =>
    have reached : world.clock ≤ deadline := by
      obtain ⟨-, same⟩ := Option.ite_none_right_eq_some.mp due
      exact Option.some.inj same ▸ Nat.le_add_right _ _
    have onto := LawfulQueue.armed_arm deadline action recorded.sound
    simp only [updateNow, due]
    refine ⟨LawfulQueue.sound_arm deadline action recorded.sound, recorded.order, recorded.clocks, ?_, ?_, ?_, ?_⟩
    · intro firing member timer isArmed
      obtain rfl | before := List.mem_cons.mp (onto.mem_iff.mp isArmed)
      · have past := (recorded.clocks firing member).2
        have latest := (recorded.clocks firing member).1
        have older := recorded.numbered _ (recorded.fired_scheduled firing member)
        rw [Alarm.lt_def]
        change _ < deadline ∨ _ = deadline ∧ _ < world.hub.nextTimer
        omega
      · exact recorded.ahead firing member timer before
    · intro alarm member
      obtain rfl | before := List.mem_cons.mp member
      · exact Nat.lt_succ_self _
      · exact Nat.lt_succ_of_lt (recorded.numbered alarm before)
    · exact List.pairwise_cons.mpr ⟨fun alarm member => Nat.ne_of_gt (recorded.numbered alarm member), recorded.distinct⟩
    · obtain ⟨dropped, numbersOf, same⟩ := recorded.fates
      refine ⟨dropped, numbersOf, ?_⟩
      exact (same.cons ⟨deadline, world.hub.nextTimer⟩).trans ((onto.map Prod.fst).symm.append_right _)

/-- What is cancelled was armed, and is not any more. -/
theorem cancel (recorded : Recorded world) (timer : Nat) : Recorded (world.cancel timer).2 := by
  unfold World.cancel
  split
  · exact recorded
  next rest dropping =>
    obtain ⟨isArmed, sound, onto⟩ := LawfulQueue.cancel_some recorded.sound dropping
    obtain ⟨found, member, rfl⟩ := (LawfulQueue.isArmed_iff timer recorded.sound).mp isArmed
    have taken := perm_cons_filter (LawfulQueue.distinct recorded.sound) member
    obtain ⟨dropped, numbersOf, same⟩ := recorded.fates
    refine ⟨sound, recorded.order, recorded.clocks, ?_, recorded.numbered, recorded.distinct, found.1 :: dropped, ?_, ?_⟩
    · intro firing fired other isArmed
      exact recorded.ahead firing fired other (List.mem_filter.mp (onto.mem_iff.mp isArmed)).1
    · exact congrArg (found.1.id :: ·) numbersOf
    · change world.scheduled.Perm ((armed rest).map (·.1) ++ (world.firings.map (·.alarm) ++ found.1 :: dropped))
      have split := (taken.trans (onto.symm.cons found)).map Prod.fst
      apply (same.trans (split.append_right _)).trans
      rw [List.map_cons, List.cons_append, ← List.append_assoc, ← List.append_assoc]
      exact List.perm_middle.symm

/-- What fires was armed, is due before all that are still armed, and after all that fired. -/
theorem fire (recorded : Recorded world) {alarm : Alarm} {action : Action ν σ}
    (found : world.takeNext = (some (alarm, action), after)) : Recorded (after.arrive alarm) := by
  obtain ⟨sound, onto, least⟩ := takeNext_some recorded.sound found
  obtain ⟨-, rfl⟩ := Prod.mk.inj found
  have member : (alarm, action) ∈ armed world.hub.queue := onto.mem_iff.mpr (List.mem_cons_self ..)
  obtain ⟨dropped, numbersOf, same⟩ := recorded.fates
  refine ⟨sound, ?_, ?_, ?_, recorded.numbered, recorded.distinct, dropped, numbersOf, ?_⟩
  · exact List.pairwise_cons.mpr ⟨fun earlier fired =>
      ⟨recorded.ahead earlier fired _ member, (recorded.clocks earlier fired).2⟩, recorded.order⟩
  · intro firing fired
    obtain rfl | before := List.mem_cons.mp fired
    · exact ⟨rfl, Nat.le_refl _⟩
    · obtain ⟨reached, past⟩ := recorded.clocks firing before
      exact ⟨reached, Nat.le_trans past (Nat.le_max_left _ _)⟩
  · intro firing fired other isArmed
    obtain rfl | before := List.mem_cons.mp fired
    · exact least other isArmed
    · exact recorded.ahead firing before other (onto.mem_iff.mpr (List.mem_cons_of_mem _ isArmed))
  · apply (same.trans ((onto.map Prod.fst).append_right _)).trans
    exact List.perm_middle.symm

theorem step (recorded : Recorded world) (step : Step world after) : Recorded after := by
  cases step with
  | aside clock queue now numbers timers journal =>
    exact recorded.keep queue numbers (Nat.le_of_eq clock.symm) (congrArg (List.filterMap HubEvent.arming?) journal)
      (congrArg (List.filterMap HubEvent.firing?) journal) (congrArg (List.filterMap HubEvent.cancelling?) journal)
  | burn nanos => exact recorded.keep rfl rfl (Nat.le_add_right _ _) rfl rfl rfl
  | look => exact recorded.keep rfl rfl (Nat.le_refl _) rfl rfl rfl
  | @note event other => cases event with
    | armed _ | cancelled _ | fired _ _ _ => cases other
    | callbackFailed _ _ | switchBegun | reclaimSet _ | sampled _ =>
      exact recorded.keep rfl rfl (Nat.le_refl _) rfl rfl rfl
  | schedule delay action => exact recorded.schedule delay action
  | cancel timer => exact recorded.cancel timer
  | @start scheduled delay timer timeout armed =>
    have renewed := recorded.schedule delay (.raise timeout.error)
    rw [armed] at renewed
    exact renewed.keep rfl rfl (Nat.le_refl _) rfl rfl rfl
  | forget => exact recorded.keep rfl rfl (Nat.le_refl _) rfl rfl rfl
  | collect =>
    exact recorded.carry (LawfulQueue.sound_collect recorded.sound) (LawfulQueue.armed_collect recorded.sound)
      (Nat.le_refl _) (Nat.le_refl _) rfl rfl rfl
  | runOut found =>
    obtain ⟨sound, nothing, still⟩ := takeNext_none recorded.sound found
    obtain ⟨-, rfl⟩ := Prod.mk.inj found
    exact recorded.carry sound (.of_eq (still.trans nothing.symm)) (Nat.le_refl _) (Nat.le_refl _) rfl rfl rfl
  | fire found => exact recorded.fire found

theorem steps (recorded : Recorded world) (steps : Steps world after) : Recorded after := by
  induction steps with
  | refl => exact recorded
  | tail _ last ih => exact ih.step last

end Recorded

end World

end Testbench
