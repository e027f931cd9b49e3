import Mathlib.Data.List.Perm.Subperm
import Testbench.Hub.LazyQueue
import Testbench.Proofs.QueueLaws

/-! The lazy queue is lawful. A timer is armed while its action is kept; its alarm is then in the heap, and
every other alarm there is stale. -/

namespace Testbench

universe u v

namespace Registry

variable {κ : Type u} {α : Type v} [DecidableEq κ]

def Keyed (registry : Registry κ α) : Prop := (registry.entries.map (·.1)).Nodup

theorem contains_iff (registry : Registry κ α) (key : κ) :
    registry.contains key = true ↔ key ∈ registry.entries.map (·.1) := by
  simp [contains, get?]

theorem get?_erase (registry : Registry κ α) (key other : κ) :
    (registry.erase key).get? other = if other = key then none else registry.get? other := by
  split
  next same => exact same ▸ get?_erase_self registry other
  next different => exact get?_erase_of_ne registry different

theorem get?_set (registry : Registry κ α) (key other : κ) (value : α) :
    (registry.set key value).get? other = if other = key then some value else registry.get? other := by
  split
  next same => exact same ▸ get?_set_self registry other value
  next different => exact get?_set_of_ne registry value different

theorem Keyed.erase {registry : Registry κ α} (keyed : registry.Keyed) (key : κ) : (registry.erase key).Keyed :=
  keyed.sublist (List.filter_sublist.map _)

theorem Keyed.set {registry : Registry κ α} (keyed : registry.Keyed) (key : κ) (value : α) :
    (registry.set key value).Keyed := by
  refine List.nodup_cons.mpr ⟨?_, keyed.erase key⟩
  simp [Registry.erase]

end Registry

namespace LazyQueue

variable {α : Type u}

def armed (queue : LazyQueue α) : List (Alarm × α) :=
  queue.heap.toList.filterMap fun alarm => (queue.actions.get? alarm.id).map (alarm, ·)

/-- The heap may hold more than the armed timers, never less, and no timer twice. -/
structure Sound (bound : Nat) (queue : LazyQueue α) : Prop where
  ordered : queue.heap.Ordered
  distinct : queue.heap.toList.Pairwise (·.id ≠ ·.id)
  numbered : ∀ alarm ∈ queue.heap.toList, alarm.id < bound
  backed : ∀ id, queue.isArmed id = true → ∃ alarm ∈ queue.heap.toList, alarm.id = id
  keyed : queue.actions.Keyed

theorem mem_armed {queue : LazyQueue α} {timer : Alarm × α} :
    timer ∈ queue.armed ↔ timer.1 ∈ queue.heap.toList ∧ queue.actions.get? timer.1.id = some timer.2 := by
  simp only [armed, List.mem_filterMap, Option.map_eq_some_iff]
  constructor
  · rintro ⟨alarm, member, action, kept, rfl⟩
    exact ⟨member, kept⟩
  · rintro ⟨member, kept⟩
    exact ⟨timer.1, member, timer.2, kept, rfl⟩

theorem isArmed_iff {queue : LazyQueue α} {id : Nat} : queue.isArmed id = true ↔ ∃ action, queue.actions.get? id = some action :=
  Option.isSome_iff_exists

theorem mem_armed_isArmed {queue : LazyQueue α} {timer : Alarm × α} (member : timer ∈ queue.armed) :
    queue.isArmed timer.1.id = true :=
  isArmed_iff.mpr ⟨timer.2, (mem_armed.mp member).2⟩

/-- What is armed depends on the heap up to order only. -/
private theorem armed_perm {heap other : TimerHeap} (same : heap.toList.Perm other.toList) (actions : Registry Nat α) :
    (armed ⟨heap, actions⟩).Perm (armed ⟨other, actions⟩) :=
  same.filterMap _

private theorem ids_armed (queue : LazyQueue α) :
    queue.armed.map (·.1.id) = (queue.heap.toList.filter fun alarm => queue.isArmed alarm.id).map (·.id) := by
  simp only [armed, isArmed, Registry.contains]
  induction queue.heap.toList with
  | nil => rfl
  | cons alarm rest ih =>
    cases kept : queue.actions.get? alarm.id <;> simp [kept, ih]

namespace Sound

variable {bound : Nat} {queue : LazyQueue α}

theorem armed_distinct (sound : Sound bound queue) : queue.armed.Pairwise (·.1.id ≠ ·.1.id) := by
  have ids : (queue.armed.map (·.1.id)).Pairwise (· ≠ ·) := by
    rw [ids_armed]
    exact List.pairwise_map.mpr (sound.distinct.sublist List.filter_sublist)
  exact List.pairwise_map.mp ids

theorem isArmed_iff_mem (sound : Sound bound queue) (id : Nat) :
    queue.isArmed id = true ↔ ∃ timer ∈ queue.armed, timer.1.id = id := by
  constructor
  · intro isArmed
    obtain ⟨alarm, member, rfl⟩ := sound.backed id isArmed
    obtain ⟨action, kept⟩ := isArmed_iff.mp isArmed
    exact ⟨(alarm, action), mem_armed.mpr ⟨member, kept⟩, rfl⟩
  · rintro ⟨timer, member, rfl⟩
    exact mem_armed_isArmed member

/-- One action is kept for each armed timer. -/
theorem size_actions (sound : Sound bound queue) : queue.armedCount = queue.armed.length := by
  have same : (queue.actions.entries.map (·.1)).Perm (queue.armed.map (·.1.id)) := by
    apply (List.perm_ext_iff_of_nodup sound.keyed (List.pairwise_map.mpr sound.armed_distinct)).mpr
    intro id
    rw [← Registry.contains_iff, List.mem_map]
    exact sound.isArmed_iff_mem id
  simpa [armedCount, Registry.size] using same.length_eq

theorem skip (sound : Sound bound queue) : Sound (bound + 1) queue :=
  { sound with numbered := fun alarm member => Nat.lt_succ_of_lt (sound.numbered alarm member) }

theorem arm (sound : Sound bound queue) (deadline : Nat) (action : α) :
    Sound (bound + 1) (queue.arm bound deadline action) := by
  have onto := TimerHeap.toList_insert queue.heap bound deadline
  refine ⟨TimerHeap.ordered_insert sound.ordered _ _, ?_, ?_, ?_, sound.keyed.set _ _⟩
  · refine (onto.pairwise_iff fun different => Ne.symm different).mpr (List.pairwise_cons.mpr ⟨?_, sound.distinct⟩)
    exact fun alarm member => Nat.ne_of_gt (sound.numbered alarm member)
  · intro alarm member
    obtain rfl | inside := List.mem_cons.mp (onto.mem_iff.mp member)
    · exact Nat.lt_succ_self _
    · exact Nat.lt_succ_of_lt (sound.numbered alarm inside)
  · intro id isArmed
    by_cases same : id = bound
    · exact ⟨⟨deadline, bound⟩, onto.mem_iff.mpr (List.mem_cons_self ..), same.symm⟩
    · have before : queue.isArmed id = true := by
        simpa [LazyQueue.isArmed, Registry.contains, LazyQueue.arm, Registry.get?_set_of_ne _ _ same] using isArmed
      obtain ⟨alarm, member, number⟩ := sound.backed id before
      exact ⟨alarm, onto.mem_iff.mpr (List.mem_cons_of_mem _ member), number⟩

theorem armed_arm (sound : Sound bound queue) (deadline : Nat) (action : α) :
    (queue.arm bound deadline action).armed.Perm ((⟨deadline, bound⟩, action) :: queue.armed) := by
  have onto : (queue.heap.insert bound deadline).toList.Perm (TimerHeap.node ⟨deadline, bound⟩ queue.heap .empty).toList :=
    (TimerHeap.toList_insert queue.heap bound deadline).trans (by simp [TimerHeap.toList])
  apply (armed_perm onto _).trans
  have others : ∀ alarm ∈ queue.heap.toList, (queue.actions.set bound action).get? alarm.id = queue.actions.get? alarm.id :=
    fun alarm member => Registry.get?_set_of_ne _ _ (Nat.ne_of_lt (sound.numbered alarm member))
  simp only [armed, TimerHeap.toList, List.append_nil, List.filterMap_cons, Registry.get?_set_self, Option.map_some]
  refine List.Perm.cons _ (List.Perm.of_eq (List.filterMap_congr fun alarm member => ?_))
  rw [others alarm member]

/-- Alarms may go, except those of armed timers. -/
private theorem narrow (sound : Sound bound queue) {heap : TimerHeap} {actions : Registry Nat α} (ordered : heap.Ordered)
    (part : heap.toList.Subperm queue.heap.toList) (keyed : actions.Keyed)
    (backed : ∀ id, actions.contains id = true → ∃ alarm ∈ heap.toList, alarm.id = id) : Sound bound ⟨heap, actions⟩ := by
  obtain ⟨alarms, same, within⟩ := part
  refine ⟨ordered, ?_, ?_, backed, keyed⟩
  · exact (same.pairwise_iff fun different => Ne.symm different).mp (sound.distinct.sublist within)
  · exact fun alarm member => sound.numbered alarm (within.subset (same.mem_iff.mpr member))

theorem forget (sound : Sound bound queue) (id : Nat) : Sound bound { queue with actions := queue.actions.erase id } := by
  apply sound.narrow sound.ordered (List.Subperm.refl _) (sound.keyed.erase id)
  intro other isArmed
  rw [Registry.contains, Registry.get?_erase] at isArmed
  split at isArmed
  · cases isArmed
  · exact sound.backed other isArmed

theorem armed_forget (queue : LazyQueue α) (id : Nat) :
    armed { queue with actions := queue.actions.erase id } = queue.armed.filter (·.1.id ≠ id) := by
  simp only [armed, List.filter_filterMap]
  apply List.filterMap_congr
  intro alarm _
  rw [Registry.get?_erase]
  by_cases same : alarm.id = id
  · cases queue.actions.get? alarm.id <;> simp [same, Option.filter]
  · cases queue.actions.get? alarm.id <;> simp [same, Option.filter]

theorem collect (sound : Sound bound queue) : Sound bound queue.collect := by
  have swept := TimerHeap.toList_retain queue.heap queue.isArmed
  refine sound.narrow (TimerHeap.ordered_retain _ _) ?_ sound.keyed ?_
  · exact swept.subperm.trans List.filter_sublist.subperm
  · intro id isArmed
    obtain ⟨alarm, member, rfl⟩ := sound.backed id isArmed
    exact ⟨alarm, swept.mem_iff.mpr (List.mem_filter.mpr ⟨member, isArmed⟩), rfl⟩

theorem tidy (sound : Sound bound queue) (reclaim : Bool) : Sound bound (queue.tidy reclaim) := by
  unfold LazyQueue.tidy
  split
  · exact sound.collect
  · exact sound

end Sound

/-- Only stale alarms are swept. -/
theorem armed_collect (queue : LazyQueue α) : queue.collect.armed.Perm queue.armed := by
  refine ((TimerHeap.toList_retain queue.heap queue.isArmed).filterMap _).trans (List.Perm.of_eq ?_)
  rw [armed, List.filterMap_filter]
  apply List.filterMap_congr
  intro alarm _
  have same : queue.collect.actions = queue.actions := rfl
  cases kept : queue.actions.get? alarm.id <;> simp [isArmed, Registry.contains, same, kept]

/-- A swept heap has one alarm for each armed timer. -/
theorem size_collect {bound : Nat} {queue : LazyQueue α} (sound : Sound bound queue) :
    queue.collect.heap.size = queue.armedCount := by
  have swept := (TimerHeap.toList_retain queue.heap queue.isArmed).map (·.id)
  rw [← ids_armed] at swept
  rw [sound.size_actions, ← TimerHeap.length_toList]
  simpa [collect] using swept.length_eq

theorem armed_tidy (queue : LazyQueue α) (reclaim : Bool) : (queue.tidy reclaim).armed.Perm queue.armed := by
  unfold tidy
  split
  · exact armed_collect queue
  · exact List.Perm.refl _

section Pop

variable {bound : Nat} {queue : LazyQueue α} {alarm : Alarm} {heap : TimerHeap}

private theorem armed_pop (popped : queue.heap.pop = some (alarm, heap)) :
    queue.armed.Perm (((queue.actions.get? alarm.id).map (alarm, ·)).toList ++ armed ⟨heap, queue.actions⟩) := by
  refine ((TimerHeap.toList_pop popped).filterMap _).trans (List.Perm.of_eq ?_)
  cases kept : queue.actions.get? alarm.id <;> simp [kept, armed]

/-- A stale alarm on top of the heap is of no account. -/
theorem pop_stale (sound : Sound bound queue) (popped : queue.heap.pop = some (alarm, heap))
    (stale : queue.actions.get? alarm.id = none) :
    Sound bound ⟨heap, queue.actions⟩ ∧ queue.armed.Perm (armed ⟨heap, queue.actions⟩) := by
  have same := TimerHeap.toList_pop popped
  refine ⟨sound.narrow (TimerHeap.pop_least sound.ordered popped).1 ?_ sound.keyed ?_, ?_⟩
  · exact (List.sublist_cons_self alarm heap.toList).subperm.trans same.symm.subperm
  · intro id isArmed
    obtain ⟨other, member, rfl⟩ := sound.backed id isArmed
    obtain rfl | inside := List.mem_cons.mp (same.mem_iff.mp member)
    · simp [Registry.contains, stale] at isArmed
    · exact ⟨other, inside, rfl⟩
  · simpa [stale] using armed_pop popped

theorem pop_armed (sound : Sound bound queue) (popped : queue.heap.pop = some (alarm, heap)) {action : α}
    (kept : queue.actions.get? alarm.id = some action) :
    Sound bound ⟨heap, queue.actions.erase alarm.id⟩ ∧
      queue.armed.Perm ((alarm, action) :: armed ⟨heap, queue.actions.erase alarm.id⟩) ∧
      ∀ other ∈ armed ⟨heap, queue.actions.erase alarm.id⟩, alarm < other.1 := by
  have same := TimerHeap.toList_pop popped
  obtain ⟨ordered, least⟩ := TimerHeap.pop_least sound.ordered popped
  have distinct := (same.pairwise_iff fun different => Ne.symm different).mp sound.distinct
  obtain ⟨others, _⟩ := List.pairwise_cons.mp distinct
  have unchanged : armed ⟨heap, queue.actions.erase alarm.id⟩ = armed ⟨heap, queue.actions⟩ :=
    List.filterMap_congr fun other member => by
      rw [Registry.get?_erase_of_ne _ (Ne.symm (others other member))]
  refine ⟨?_, ?_, ?_⟩
  · refine sound.forget alarm.id |>.narrow ordered ?_ (sound.keyed.erase _) ?_
    · exact (List.sublist_cons_self alarm heap.toList).subperm.trans same.symm.subperm
    · intro id isArmed
      obtain ⟨other, member, rfl⟩ := (sound.forget alarm.id).backed id isArmed
      obtain rfl | inside := List.mem_cons.mp (same.mem_iff.mp member)
      · simp [Registry.contains, Registry.get?_erase_self] at isArmed
      · exact ⟨other, inside, rfl⟩
  · rw [unchanged]
    simpa [kept] using armed_pop popped
  · intro other member
    have inside := (mem_armed.mp member).1
    exact Alarm.lt_of_le_of_id_ne (least _ inside) (others _ inside)

end Pop

theorem next_none {bound : Nat} {queue : LazyQueue α} (sound : Sound bound queue) (reclaim : Bool)
    (nothing : (queue.next reclaim).1 = none) :
    Sound bound (queue.next reclaim).2 ∧ queue.armed = [] ∧ (queue.next reclaim).2.armed = [] := by
  fun_induction queue.next reclaim with
  | case1 queue popped =>
    have none : (queue.tidy reclaim).armed = [] := by
      simp only [armed, TimerHeap.toList_pop_none popped, List.filterMap_nil]
    exact ⟨sound.tidy reclaim, List.Perm.nil_eq (none ▸ armed_tidy queue reclaim) |>.symm, none⟩
  | case2 queue alarm heap popped rest action kept => cases nothing
  | case3 queue alarm heap popped rest stale ih =>
    obtain ⟨restSound, same⟩ := pop_stale (sound.tidy reclaim) popped stale
    obtain ⟨last, empty, left⟩ := ih restSound nothing
    refine ⟨last, ?_, left⟩
    have tidied := (armed_tidy queue reclaim).symm.trans same
    exact List.Perm.eq_nil (empty ▸ tidied)

theorem next_some {bound : Nat} {queue : LazyQueue α} (sound : Sound bound queue) (reclaim : Bool) {timer : Alarm × α}
    (found : (queue.next reclaim).1 = some timer) :
    Sound bound (queue.next reclaim).2 ∧ queue.armed.Perm (timer :: (queue.next reclaim).2.armed) ∧
      ∀ other ∈ (queue.next reclaim).2.armed, timer.1 < other.1 := by
  fun_induction queue.next reclaim with
  | case1 queue popped => cases found
  | case2 queue alarm heap popped rest action kept =>
    cases found
    obtain ⟨last, same, least⟩ := pop_armed (sound.tidy reclaim) popped kept
    exact ⟨last, (armed_tidy queue reclaim).symm.trans same, least⟩
  | case3 queue alarm heap popped rest stale ih =>
    obtain ⟨restSound, same⟩ := pop_stale (sound.tidy reclaim) popped stale
    obtain ⟨last, taken, least⟩ := ih restSound found
    exact ⟨last, ((armed_tidy queue reclaim).symm.trans same).trans taken, least⟩

instance : LawfulQueue (LazyQueue α) where
  armed := armed
  Sound := Sound
  sound_empty := ⟨trivial, List.Pairwise.nil, by simp [TimerQueue.empty, TimerHeap.toList],
    by simp [TimerQueue.empty, isArmed, Registry.contains], List.nodup_nil⟩
  armed_empty := rfl
  distinct sound := sound.armed_distinct
  numbered sound timer member := sound.numbered timer.1 (mem_armed.mp member).1
  sound_skip sound := sound.skip
  sound_arm deadline action sound := sound.arm deadline action
  armed_arm deadline action sound := sound.armed_arm deadline action
  isArmed_iff id sound := sound.isArmed_iff_mem id
  armedCount_eq sound := sound.size_actions
  cancel_none := by
    intro bound queue id sound refused
    simpa [TimerQueue.cancel?, TimerQueue.isArmed, cancel?] using refused
  cancel_some := by
    intro bound queue rest id sound cancelled
    simp only [TimerQueue.cancel?, cancel?, Option.ite_none_right_eq_some, Option.some.injEq] at cancelled
    obtain ⟨isArmed, rfl⟩ := cancelled
    exact ⟨isArmed, sound.forget id, List.Perm.of_eq (Sound.armed_forget queue id)⟩
  next_none := by
    intro bound queue rest reclaim sound found
    have taken : queue.next reclaim = (none, rest) := found
    simpa [taken] using next_none sound reclaim (by rw [taken])
  next_some := by
    intro bound queue rest reclaim timer sound found
    have taken : queue.next reclaim = (some timer, rest) := found
    simpa [taken] using next_some sound reclaim (by rw [taken])
  sound_collect sound := sound.collect
  armed_collect {_ queue} _ := armed_collect queue

end LazyQueue

end Testbench
