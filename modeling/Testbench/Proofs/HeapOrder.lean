import Testbench.Hub.TimerHeap

/-! The heap of alarms as a sorted bag. Its root is the least alarm, an operation keeps it so, and what an
operation does to the alarms is said by their list up to order. -/

namespace Testbench

namespace Alarm

theorem lt_def (a b : Alarm) : a < b ↔ a.deadline < b.deadline ∨ a.deadline = b.deadline ∧ a.id < b.id := by
  change (a ≤ b ∧ ¬ b ≤ a) ↔ _
  rw [le_def, le_def]
  omega

theorem lt_trans {a b c : Alarm} (first : a < b) (second : b < c) : a < c := by
  rw [lt_def] at *
  omega

theorem lt_irrefl (a : Alarm) : ¬ a < a := fun before => before.2 before.1

theorem deadline_le {a b : Alarm} (before : a < b) : a.deadline ≤ b.deadline := by
  rw [lt_def] at before
  omega

/-- Timers have numbers of their own, so alarms of different timers never tie. -/
theorem lt_of_le_of_id_ne {a b : Alarm} (before : a ≤ b) (different : a.id ≠ b.id) : a < b := by
  rw [le_def] at before
  rw [lt_def]
  omega

end Alarm

namespace TimerHeap

/-- No alarm is before the root of the branch it is in. -/
def Ordered : TimerHeap → Prop
  | .empty => True
  | .node root left right => (∀ alarm ∈ left.toList ++ right.toList, root ≤ alarm) ∧ left.Ordered ∧ right.Ordered

private theorem ordered_mergeNode {root : Alarm} {left right : TimerHeap} {mergeRight : TimerHeap → TimerHeap}
    (ordered : (TimerHeap.node root left right).Ordered)
    (merged : ∀ heap, (mergeRight heap).toList.Perm (right.toList ++ heap.toList))
    (kept : ∀ heap, heap.Ordered → (mergeRight heap).Ordered) (heap : TimerHeap) (sound : heap.Ordered) :
    (mergeNode root left right mergeRight heap).Ordered := by
  obtain ⟨least, leftOrdered, rightOrdered⟩ := ordered
  induction heap with
  | empty => exact ⟨least, leftOrdered, rightOrdered⟩
  | node other left' right' _ ih =>
    obtain ⟨otherLeast, leftOrdered', rightOrdered'⟩ := sound
    rw [mergeNode]
    split
    next before =>
      refine ⟨?_, kept _ ⟨otherLeast, leftOrdered', rightOrdered'⟩, leftOrdered⟩
      intro alarm member
      rw [List.mem_append, (merged _).mem_iff, List.mem_append] at member
      obtain (inRight | inOther) | inLeft := member
      · exact least alarm (List.mem_append_right _ inRight)
      · obtain rfl | inside := List.mem_cons.mp inOther
        · exact before
        · exact Alarm.le_trans before (otherLeast alarm inside)
      · exact least alarm (List.mem_append_left _ inLeft)
    next after =>
      refine ⟨?_, ih rightOrdered', leftOrdered'⟩
      have before : other ≤ root := (Alarm.le_total other root).resolve_right after
      intro alarm member
      rw [List.mem_append, (toList_mergeNode root left right mergeRight merged right').mem_iff, List.mem_append] at member
      obtain (inNode | inRight) | inLeft := member
      · obtain rfl | inside := List.mem_cons.mp inNode
        · exact before
        · exact Alarm.le_trans before (least alarm inside)
      · exact otherLeast alarm (List.mem_append_right _ inRight)
      · exact otherLeast alarm (List.mem_append_left _ inLeft)

theorem ordered_merge {heap other : TimerHeap} (ordered : heap.Ordered) (sound : other.Ordered) :
    (heap.merge other).Ordered := by
  induction heap generalizing other with
  | empty => exact sound
  | node root left right _ ih =>
    exact ordered_mergeNode ordered (toList_merge right) (fun _ => ih ordered.2.2) other sound

theorem ordered_insert {heap : TimerHeap} (ordered : heap.Ordered) (id deadline : Nat) :
    (heap.insert id deadline).Ordered :=
  ordered_merge ordered ⟨by simp [toList], trivial, trivial⟩

theorem toList_insert (heap : TimerHeap) (id deadline : Nat) :
    (heap.insert id deadline).toList.Perm (⟨deadline, id⟩ :: heap.toList) := by
  have onto := toList_merge heap (.node ⟨deadline, id⟩ .empty .empty)
  exact onto.trans List.perm_append_comm

theorem toList_pop {heap rest : TimerHeap} {alarm : Alarm} (popped : heap.pop = some (alarm, rest)) :
    heap.toList.Perm (alarm :: rest.toList) := by
  cases heap with
  | empty => cases popped
  | node root left right =>
    cases popped
    exact (toList_merge left right).symm.cons alarm

theorem toList_pop_none {heap : TimerHeap} (popped : heap.pop = none) : heap.toList = [] := by
  cases heap with
  | empty => rfl
  | node root left right => cases popped

theorem pop_least {heap rest : TimerHeap} {alarm : Alarm} (ordered : heap.Ordered)
    (popped : heap.pop = some (alarm, rest)) : rest.Ordered ∧ ∀ other ∈ rest.toList, alarm ≤ other := by
  cases heap with
  | empty => cases popped
  | node root left right =>
    cases popped
    obtain ⟨least, leftOrdered, rightOrdered⟩ := ordered
    exact ⟨ordered_merge leftOrdered rightOrdered, fun other member => least other ((toList_merge left right).mem_iff.mp member)⟩

private theorem fold_insert (alarms : List Alarm) (heap : TimerHeap) (ordered : heap.Ordered) :
    let built := alarms.foldl (fun heap alarm => heap.insert alarm.id alarm.deadline) heap
    built.Ordered ∧ built.toList.Perm (alarms ++ heap.toList) := by
  induction alarms generalizing heap with
  | nil => exact ⟨ordered, List.Perm.refl _⟩
  | cons alarm rest ih =>
    obtain ⟨sound, same⟩ := ih (heap.insert alarm.id alarm.deadline) (ordered_insert ordered _ _)
    refine ⟨sound, same.trans ?_⟩
    exact ((toList_insert heap alarm.id alarm.deadline).append_left rest).trans List.perm_middle

theorem ordered_retain (heap : TimerHeap) (live : Nat → Bool) : (heap.retain live).2.Ordered :=
  (fold_insert _ .empty trivial).1

theorem toList_retain (heap : TimerHeap) (live : Nat → Bool) :
    (heap.retain live).2.toList.Perm (heap.toList.filter fun alarm => live alarm.id) := by
  simpa [retain, ofList, toList] using (fold_insert (heap.toList.filter fun alarm => live alarm.id) .empty trivial).2

end TimerHeap

end Testbench
