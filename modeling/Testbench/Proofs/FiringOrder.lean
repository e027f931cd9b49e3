import Testbench.Bench
import Testbench.Proofs.HubJournal
import Testbench.Proofs.LazyQueueLaws

/-! The order timers fire in, over all switches of a run and all callbacks in them. It is the order of their
deadlines, and of their numbers where the deadlines are equal, though timers are armed while others are overdue
and busy callbacks take the clock past many deadlines at once. -/

namespace Testbench

variable {ν σ : Type}

inductive Fate where
  | armed
  | fired
  | cancelled

namespace World

variable {Q : Type 1} [TimerQueue (Action ν σ) Q] {world after : World Q ν σ}

def HasFate (world : World Q ν σ) (timer : Nat) : Fate → Prop
  | .armed => world.isArmed timer = true
  | .fired => timer ∈ world.firings.map (·.alarm.id)
  | .cancelled => timer ∈ world.cancelled

/-- How the timers of a hub have fared so far. The journal has what came last first. -/
structure Orderly (world : World Q ν σ) : Prop where
  order : world.firings.Pairwise fun later earlier => earlier.alarm < later.alarm ∧ earlier.clock ≤ later.since
  due : ∀ firing ∈ world.firings, firing.alarm ∈ world.scheduled ∧ firing.alarm.deadline ≤ firing.clock ∧
    firing.clock = max firing.alarm.deadline firing.since
  once : (world.scheduled.map (·.id)).Nodup ∧ (world.firings.map (·.alarm.id)).Nodup ∧ world.cancelled.Nodup
  fate : ∀ alarm ∈ world.scheduled, ∃! fate, world.HasFate alarm.id fate
  cancels : ∀ timer, (world.cancel timer).1 = true ↔ timer ∈ world.scheduled.map (·.id) ∧ world.HasFate timer .armed

private theorem schedule_grows (world : World Q ν σ) (delay : Nat) (action : Action ν σ) :
    world.hub.journal <:+ (world.schedule delay action).2.hub.journal := by
  simp only [World.schedule, updateNow]
  split
  · exact List.suffix_rfl
  · exact List.suffix_cons ..

theorem Step.journal_grows (step : Step world after) : world.hub.journal <:+ after.hub.journal := by
  cases step with
  | aside _ _ _ _ _ journal => exact journal ▸ List.suffix_rfl
  | burn | look | forget | collect => exact List.suffix_rfl
  | note => exact List.suffix_cons ..
  | schedule delay action => exact schedule_grows world delay action
  | @start scheduled delay _ timeout armed =>
    have grown := schedule_grows world delay (.raise timeout.error)
    rw [armed] at grown
    exact grown
  | cancel timer =>
    unfold World.cancel
    split
    · exact List.suffix_rfl
    · exact List.suffix_cons ..
  | runOut found => obtain ⟨-, rfl⟩ := Prod.mk.inj found; exact List.suffix_rfl
  | fire found => obtain ⟨-, rfl⟩ := Prod.mk.inj found; exact List.suffix_cons ..

theorem Steps.journal_grows (steps : Steps world after) : world.hub.journal <:+ after.hub.journal := by
  induction steps with
  | refl => exact List.suffix_rfl
  | tail _ last ih => exact ih.trans last.journal_grows

/-- What has fired or was cancelled stays so. -/
theorem HasFate.for_good {timer : Nat} {fate : Fate} (has : world.HasFate timer fate) (settled : fate ≠ .armed)
    (steps : Steps world after) : after.HasFate timer fate := by
  have grown := steps.journal_grows
  cases fate with
  | armed => exact absurd rfl settled
  | fired => exact ((grown.filterMap HubEvent.firing?).map (·.alarm.id)).subset has
  | cancelled => exact (grown.filterMap HubEvent.cancelling?).subset has

variable [LawfulQueue Q]

open LawfulQueue (armed Sound)

namespace Recorded

/-- The numbers of the timers armed, fired and dropped, none of them twice. -/
theorem numbers_split (recorded : Recorded world) :
    (world.scheduled.map (·.id)).Perm ((armed world.hub.queue).map (·.1.id) ++ (world.firings.map (·.alarm.id) ++ world.cancelled)) ∧
    (world.scheduled.map (·.id)).Nodup := by
  obtain ⟨dropped, numbersOf, onto⟩ := recorded.fates
  refine ⟨?_, List.pairwise_map.mpr recorded.distinct⟩
  rw [← numbersOf]
  simpa [Function.comp_def] using onto.map (·.id)

theorem isArmed_iff (recorded : Recorded world) (timer : Nat) :
    world.isArmed timer = true ↔ timer ∈ (armed world.hub.queue).map (·.1.id) := by
  rw [World.isArmed, LawfulQueue.isArmed_iff timer recorded.sound, List.mem_map]

theorem cancel_eq_isArmed (recorded : Recorded world) (timer : Nat) : (world.cancel timer).1 = world.isArmed timer := by
  unfold World.cancel World.isArmed
  split
  next refused => exact (LawfulQueue.cancel_none recorded.sound refused).symm
  next dropping => exact (LawfulQueue.cancel_some recorded.sound dropping).1.symm

theorem one_fate (recorded : Recorded world) {timer : Nat} (known : timer ∈ world.scheduled.map (·.id)) :
    ∃! fate, world.HasFate timer fate := by
  obtain ⟨onto, distinct⟩ := recorded.numbers_split
  obtain ⟨-, rest, apart⟩ := List.nodup_append.mp (onto.nodup_iff.mp distinct)
  obtain ⟨-, -, disjoint⟩ := List.nodup_append.mp rest
  have notSettled (isArmed : world.isArmed timer = true) : timer ∉ world.firings.map (·.alarm.id) ++ world.cancelled :=
    fun settled => apart timer ((recorded.isArmed_iff timer).mp isArmed) timer settled rfl
  rcases List.mem_append.mp (onto.mem_iff.mp known) with inQueue | settled
  · have isArmed := (recorded.isArmed_iff timer).mpr inQueue
    refine ⟨.armed, isArmed, ?_⟩
    intro other has
    cases other with
    | armed => rfl
    | fired => exact absurd (List.mem_append_left _ has) (notSettled isArmed)
    | cancelled => exact absurd (List.mem_append_right _ has) (notSettled isArmed)
  · rcases List.mem_append.mp settled with fired | dropped
    · refine ⟨.fired, fired, ?_⟩
      intro other has
      cases other with
      | armed => exact absurd settled (notSettled has)
      | fired => rfl
      | cancelled => exact absurd rfl (disjoint timer fired timer has)
    · refine ⟨.cancelled, dropped, ?_⟩
      intro other has
      cases other with
      | armed => exact absurd settled (notSettled has)
      | fired => exact absurd rfl (disjoint timer has timer dropped)
      | cancelled => rfl

theorem orderly (recorded : Recorded world) : Orderly world := by
  obtain ⟨onto, distinct⟩ := recorded.numbers_split
  obtain ⟨-, settled, -⟩ := List.nodup_append.mp (onto.nodup_iff.mp distinct)
  obtain ⟨firedOnce, droppedOnce, -⟩ := List.nodup_append.mp settled
  refine ⟨recorded.order, ?_, ⟨distinct, firedOnce, droppedOnce⟩, ?_, ?_⟩
  · intro firing fired
    obtain ⟨reached, -⟩ := recorded.clocks firing fired
    exact ⟨recorded.fired_scheduled firing fired, by omega, by omega⟩
  · exact fun alarm member => recorded.one_fate (List.mem_map_of_mem member)
  · intro timer
    rw [recorded.cancel_eq_isArmed, HasFate]
    refine ⟨fun isArmed => ⟨?_, isArmed⟩, fun both => both.2⟩
    exact onto.mem_iff.mpr (List.mem_append_left _ ((recorded.isArmed_iff timer).mp isArmed))

end Recorded

end World

/-- At every moment of every run of a fresh hub, the timers that have fired did so in the order of their
deadlines and numbers, and every other timer is still armed or was cancelled; and so it stays. -/
theorem Program.timers_fire_in_order {α : Type} (front : Front) (memory : σ) (program : Program ν σ α) (turns : Nat)
    (moment : Bench ν σ) (met : program.Meets turns (Bench.fresh front memory) moment) :
    moment.Orderly ∧ ∀ later, World.Steps moment later → later.Orderly ∧ ∀ timer fate, fate ≠ Fate.armed →
      moment.HasFate timer fate → later.HasFate timer fate := by
  have recorded : World.Recorded moment := (World.Recorded.fresh front memory).steps (Program.meets_steps met)
  refine ⟨recorded.orderly, fun later steps => ⟨(recorded.steps steps).orderly, ?_⟩⟩
  exact fun timer fate settled has => has.for_good settled steps

/-- A callback that outlasts a timer, arms one that is due at once, and cancels a third. -/
def outlasting : Task Unit Unit HubError Unit := do
  Task.ask (.burn 10)
  let _ ← Task.ask (.hub (.schedule 0 .wake))
  let _ ← Task.ask (.hub (.cancel 2))
  return ()

def overdue : Program Unit Unit (Except (Stop HubError) Unit) := do
  let _ ← Program.scheduleCall 5 "outlasting" outlasting
  let _ ← Program.ask (.hub (.schedule 9 .wake))
  let _ ← Program.ask (.hub (.schedule 7 .wake))
  let _ ← Program.ask .switch
  Program.ask .switch

theorem overdue_timers_in_order : ∃ moment : Bench Unit Unit, overdue.Meets 4 (Bench.fresh .direct ()) moment ∧
    moment.firings.map (·.alarm) = [⟨15, 3⟩, ⟨9, 1⟩, ⟨5, 0⟩] ∧ moment.cancelled = [2] ∧ moment.Orderly := by
  have finishes : (overdue.run 4 (Bench.fresh .direct ())).map (fun ran => (ran.2.firings.map (·.alarm), ran.2.cancelled)) =
      some ([⟨15, 3⟩, ⟨9, 1⟩, ⟨5, 0⟩], [2]) := by decide +kernel
  obtain ⟨⟨_, moment⟩, ran, told⟩ := Option.map_eq_some_iff.mp finishes
  obtain ⟨fired, cancelled⟩ := Prod.mk.inj told
  have met := Program.meets_end ran
  exact ⟨moment, met, fired, cancelled, (Program.timers_fire_in_order .direct () overdue 4 moment met).1⟩

end Testbench
