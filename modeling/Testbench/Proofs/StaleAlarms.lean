import Mathlib.Data.List.Nodup
import Testbench.Proofs.FiringOrder
import Testbench.Proofs.TimeoutTimers

/-! The heap of a hub beside its armed timers. Arming, cancelling, sweeping and firing change the heap and the actions one
without the other, and callbacks come in between. Still every armed timer has its alarm in the heap, and never two; the
other alarms there are stale, and a hub that may tidy up does not search a heap that has many of them. -/

namespace Testbench

universe u

variable {ν σ : Type}

namespace LazyQueue

variable {α : Type u}

/-- The queue as the search for the next timer finds it each time it takes an alarm from the heap. -/
inductive Looks (reclaim : Bool) : LazyQueue α → LazyQueue α → Prop where
  | first (queue : LazyQueue α) : Looks reclaim queue (queue.tidy reclaim)
  | pastStale {queue look : LazyQueue α} {alarm : Alarm} {heap : TimerHeap}
      (popped : (queue.tidy reclaim).heap.pop = some (alarm, heap))
      (stale : (queue.tidy reclaim).actions.get? alarm.id = none)
      (later : Looks reclaim ⟨heap, (queue.tidy reclaim).actions⟩ look) : Looks reclaim queue look

/-- The search is over with the alarm of an armed timer, or with an empty heap. -/
theorem next_looks (queue : LazyQueue α) (reclaim : Bool) :
    ∃ look, queue.Looks reclaim look ∧ (queue.next reclaim).1.map (·.1) = look.heap.pop.map (·.1) := by
  fun_induction queue.next reclaim with
  | case1 queue popped => exact ⟨_, .first queue, by rw [popped]; rfl⟩
  | case2 queue alarm heap popped rest action kept => exact ⟨_, .first queue, by rw [popped]; rfl⟩
  | case3 queue alarm heap popped rest stale ih =>
    obtain ⟨look, later, same⟩ := ih
    exact ⟨look, .pastStale popped stale later, same⟩

theorem actions_tidy (queue : LazyQueue α) (reclaim : Bool) : (queue.tidy reclaim).actions = queue.actions := by
  unfold tidy
  split <;> rfl

namespace Sound

variable {bound : Nat} {queue look : LazyQueue α}

theorem armedCount_le (sound : Sound bound queue) : queue.armedCount ≤ queue.heap.size := by
  rw [sound.size_actions, ← TimerHeap.length_toList]
  exact List.length_filterMap_le _ _

theorem size_tidy (sound : Sound bound queue) :
    (queue.tidy true).heap.size ≤ queue.armedCount * 2 + staleSlack := by
  unfold LazyQueue.tidy
  split
  · rw [size_collect sound]
    omega
  next uncrowded => simpa [crowded] using uncrowded

/-- The search skips alarms, and leaves the actions alone. -/
theorem size_looks (sound : Sound bound queue) (looks : queue.Looks true look) :
    look.heap.size ≤ queue.armedCount * 2 + staleSlack := by
  induction looks with
  | first queue => exact sound.size_tidy
  | @pastStale queue look alarm heap popped stale later ih =>
    have shorter := ih (pop_stale (sound.tidy true) popped stale).1
    rwa [armedCount, actions_tidy] at shorter

end Sound

end LazyQueue

private theorem filter_id {alarms : List Alarm} (distinct : alarms.Pairwise (·.id ≠ ·.id)) {alarm : Alarm}
    (member : alarm ∈ alarms) : alarms.filter (·.id = alarm.id) = [alarm] := by
  induction distinct with
  | nil => cases member
  | @cons first rest apart _ ih =>
    obtain rfl | later := List.mem_cons.mp member
    · have others : rest.filter (·.id = alarm.id) = [] :=
        List.filter_eq_nil_iff.mpr fun other isOther => by simpa using Ne.symm (apart other isOther)
      rw [List.filter_cons_of_pos (by simp), others]
    · rw [List.filter_cons_of_neg (by simpa using apart alarm later), ih later]

namespace Bench

def alarms (bench : Bench ν σ) : List Alarm := bench.hub.queue.heap.toList

/-- The heap of the hub is in order, with regard to the armed timers and to the sweeping. -/
structure HeapInOrder (bench : Bench ν σ) : Prop where
  known : ∀ timer, bench.isArmed timer = true → timer ∈ bench.scheduled.map (·.id)
  /-- An armed timer has one alarm in the heap, which is the one it was armed with. -/
  backed : ∀ alarm ∈ bench.scheduled, bench.isArmed alarm.id = true →
    (alarms bench).filter (·.id = alarm.id) = [alarm]
  arms : ∀ delay action timer after, bench.schedule delay action = (.ok timer, after) →
    after.scheduled = ⟨bench.clock + delay, timer⟩ :: bench.scheduled
  distinct : ((alarms bench).map (·.id)).Nodup
  numbered : (∀ alarm ∈ alarms bench, alarm.id < bench.hub.nextTimer) ∧
    ∀ timer, bench.isArmed timer = true → timer < bench.hub.nextTimer
  room : pendingTimers bench ≤ heapSize bench
  /-- Collecting sweeps out the stale alarms and does nothing else. -/
  collects : ∃ swept, (bench.onHub .collect).2 = bench.setQueue ⟨swept, bench.hub.queue.actions⟩ ∧
    swept.size = pendingTimers bench ∧
    ∀ alarm, bench.isArmed alarm.id = true → (alarm ∈ swept.toList ↔ alarm ∈ alarms bench)
  /-- The next timer is on top of the last heap that the search looks at. -/
  searches : ∃ look, bench.hub.queue.Looks bench.hub.reclaim look ∧
    bench.takeNext.1.map (·.1) = look.heap.pop.map (·.1)
  tidied : bench.hub.reclaim = true → ∀ look, bench.hub.queue.Looks bench.hub.reclaim look →
    look.heap.size ≤ 2 * pendingTimers bench + 16

end Bench

theorem World.Recorded.heapInOrder {bench : Bench ν σ} (recorded : World.Recorded bench) : bench.HeapInOrder := by
  have sound : bench.hub.queue.Sound bench.hub.nextTimer := recorded.sound
  have swept := TimerHeap.toList_retain bench.hub.queue.heap bench.hub.queue.isArmed
  have armedWith (timer : Nat) (isArmed : bench.isArmed timer = true) :
      ∃ alarm ∈ bench.alarms, alarm.id = timer ∧ alarm ∈ bench.scheduled := by
    obtain ⟨alarm, member, rfl⟩ := sound.backed timer isArmed
    obtain ⟨action, kept⟩ := LazyQueue.isArmed_iff.mp isArmed
    have inQueue : (alarm, action) ∈ bench.hub.queue.armed := LazyQueue.mem_armed.mpr ⟨member, kept⟩
    obtain ⟨dropped, -, onto⟩ := recorded.fates
    exact ⟨alarm, member, rfl, onto.mem_iff.mpr (List.mem_append_left _ (List.mem_map_of_mem inQueue))⟩
  refine ⟨?_, ?_, ?_, List.pairwise_map.mpr sound.distinct, ⟨sound.numbered, ?_⟩, sound.armedCount_le,
    ⟨_, rfl, LazyQueue.size_collect sound, ?_⟩, LazyQueue.next_looks _ _, ?_⟩
  · intro timer isArmed
    obtain ⟨alarm, -, rfl, scheduled⟩ := armedWith timer isArmed
    exact List.mem_map_of_mem scheduled
  · intro alarm scheduled isArmed
    obtain ⟨found, member, same, known⟩ := armedWith alarm.id isArmed
    have own : found = alarm := List.inj_on_of_nodup_map recorded.numbers_split.2 known scheduled same
    exact own ▸ filter_id sound.distinct member
  · intro delay action timer after answered
    simp only [World.schedule, World.updateNow] at answered
    split at answered
    · cases answered
    next deadline due =>
      obtain rfl := eq_add_of_deadline? due
      cases answered
      rfl
  · intro timer isArmed
    obtain ⟨alarm, member, rfl⟩ := sound.backed timer isArmed
    exact sound.numbered alarm member
  · intro alarm isArmed
    rw [swept.mem_iff, List.mem_filter]
    exact and_iff_left isArmed
  · intro reclaim look looks
    rw [reclaim] at looks
    have few := sound.size_looks looks
    rwa [Nat.mul_comm] at few

/-- At every moment of every run of a fresh hub, in the middle of a callback and after a callback's panic too, the heap is
in order. -/
theorem Bench.heap_in_order {α : Type} (front : Front) (memory : σ) (program : Program ν σ α) (turns : Nat)
    (moment : Bench ν σ) (met : program.Meets turns (Bench.fresh front memory) moment) : moment.HeapInOrder :=
  ((World.Recorded.fresh front memory).steps (Program.meets_steps met)).heapInOrder

/-- Arms timers only to cancel them. -/
def litter : Nat → Program Unit Unit Unit
  | 0 => return ()
  | count + 1 => do
    if let .ok timer ← Program.ask (.hub (.schedule 900 .wake)) then
      let _ ← Program.ask (.hub (.cancel timer))
    litter count

def litterBomb : Task Unit Unit HubError Unit := do
  ExceptT.lift (litter 3)
  Task.panic ⟨some "boom"⟩

def littered : Program Unit Unit (Except (Stop HubError) Unit) := do
  let _ ← Program.ask (.hub (.schedule 50 .wake))
  let _ ← Program.scheduleCall 5 "litter bomb" litterBomb
  litter 20
  Program.ask .switch

/-- The switch swept twenty stale alarms before the callback ran, which left three behind. -/
theorem littered_heap_in_order : ∃ moment : Bench Unit Unit, littered.Meets 2 (Bench.fresh .direct ()) moment ∧
    moment.heapSize = 4 ∧ moment.pendingTimers = 1 ∧ moment.HeapInOrder := by
  have panics : (littered.run 2 (Bench.fresh .direct ())).map
      (fun (outcome, after) => (outcome, Bench.heapSize after, Bench.pendingTimers after)) =
      some (.error (.panicked ⟨some "boom"⟩), 4, 1) := by decide +kernel
  obtain ⟨⟨outcome, moment⟩, ran, told⟩ := Option.map_eq_some_iff.mp panics
  obtain ⟨-, facts⟩ := Prod.mk.inj told
  obtain ⟨size, count⟩ := Prod.mk.inj facts
  have met := Program.meets_end ran
  exact ⟨moment, met, size, count, Bench.heap_in_order .direct () littered 2 moment met⟩

end Testbench
