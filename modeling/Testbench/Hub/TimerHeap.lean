import Testbench.Hub.Alarm

/-!
A heap of alarms whose root is the next to fire. It is a skew heap: every operation is a merge, and a
merge swaps the branches it walks down.
-/

namespace Testbench

inductive TimerHeap where
  | empty
  | node (root : Alarm) (left right : TimerHeap)

namespace TimerHeap

/-- Merges a heap into the one with the given root and branches, when merging into its right branch is
known. -/
def mergeNode (root : Alarm) (left right : TimerHeap) (mergeRight : TimerHeap → TimerHeap) :
    TimerHeap → TimerHeap
  | .empty => .node root left right
  | .node other left' right' =>
    if root ≤ other then .node root (mergeRight (.node other left' right')) left
    else .node other (mergeNode root left right mergeRight right') left'

def merge : TimerHeap → TimerHeap → TimerHeap
  | .empty, heap => heap
  | .node root left right, heap => mergeNode root left right (merge right) heap

def insert (heap : TimerHeap) (id : Nat) (deadline : Nat) : TimerHeap :=
  heap.merge (.node ⟨deadline, id⟩ .empty .empty)

/-- The next alarm to fire, and the heap without it. -/
def pop : TimerHeap → Option (Alarm × TimerHeap)
  | .empty => none
  | .node root left right => some (root, left.merge right)

def peekDeadline : TimerHeap → Option Nat
  | .empty => none
  | .node root _ _ => some root.deadline

/-- The alarms, in no particular order. -/
def toList : TimerHeap → List Alarm
  | .empty => []
  | .node root left right => root :: (left.toList ++ right.toList)

def size : TimerHeap → Nat
  | .empty => 0
  | .node _ left right => left.size + right.size + 1

def isEmpty : TimerHeap → Bool
  | .empty => true
  | .node .. => false

def ofList (alarms : List Alarm) : TimerHeap :=
  alarms.foldl (fun heap alarm => heap.insert alarm.id alarm.deadline) .empty

/-- Keeps the alarms whose timer is live, and says how many it dropped. -/
def retain (heap : TimerHeap) (live : Nat → Bool) : Nat × TimerHeap :=
  let kept := ofList (heap.toList.filter fun alarm => live alarm.id)
  (heap.size - kept.size, kept)

theorem length_toList (heap : TimerHeap) : heap.toList.length = heap.size := by
  induction heap with
  | empty => rfl
  | node root left right leftSize rightSize => simp [toList, size, leftSize, rightSize]

theorem toList_mergeNode (root : Alarm) (left right : TimerHeap) (mergeRight : TimerHeap → TimerHeap)
    (merged : ∀ heap, (mergeRight heap).toList.Perm (right.toList ++ heap.toList)) (heap : TimerHeap) :
    (mergeNode root left right mergeRight heap).toList.Perm
      ((TimerHeap.node root left right).toList ++ heap.toList) := by
  induction heap with
  | empty => simp [mergeNode, toList]
  | node other left' right' _ ih =>
    rw [mergeNode]
    split
    · simp only [toList, List.cons_append, List.append_assoc]
      refine List.Perm.cons _ ?_
      exact ((merged _).append_right _).trans List.perm_append_comm
    · simp only [toList, List.cons_append, List.append_assoc]
      have onto := (ih.append_right left'.toList).cons other
      refine onto.trans ?_
      simp only [toList, List.cons_append, List.append_assoc]
      refine ((List.Perm.swap root other _).trans (List.Perm.cons root ?_))
      refine (List.Perm.cons other (List.Perm.append_left _ (List.Perm.append_left _ List.perm_append_comm))).trans ?_
      simpa [List.append_assoc] using
        (@List.perm_middle _ other (left.toList ++ right.toList) (left'.toList ++ right'.toList)).symm

/-- A merge loses no alarm and makes none up. -/
theorem toList_merge (heap other : TimerHeap) : (heap.merge other).toList.Perm (heap.toList ++ other.toList) := by
  induction heap generalizing other with
  | empty => simp [merge, toList]
  | node root left right _ ih => exact toList_mergeNode root left right _ ih other

theorem size_merge (heap other : TimerHeap) : (heap.merge other).size = heap.size + other.size := by
  rw [← length_toList, (toList_merge heap other).length_eq, List.length_append, length_toList, length_toList]

theorem size_pop {heap rest : TimerHeap} {alarm : Alarm} (popped : heap.pop = some (alarm, rest)) :
    rest.size + 1 = heap.size := by
  cases heap with
  | empty => cases popped
  | node root left right =>
    cases popped
    simp [size, size_merge]

theorem size_insert (heap : TimerHeap) (id : Nat) (deadline : Nat) :
    (heap.insert id deadline).size = heap.size + 1 := by
  simp [insert, size_merge, size]

theorem size_ofList (alarms : List Alarm) : (ofList alarms).size = alarms.length := by
  have step : ∀ heap : TimerHeap,
      (alarms.foldl (fun heap alarm => heap.insert alarm.id alarm.deadline) heap).size = heap.size + alarms.length := by
    induction alarms with
    | nil => simp
    | cons alarm rest ih =>
      intro heap
      rw [List.foldl_cons, ih, size_insert, List.length_cons]
      omega
  simpa [ofList, size] using step .empty

theorem size_retain_le (heap : TimerHeap) (live : Nat → Bool) : (heap.retain live).2.size ≤ heap.size := by
  rw [retain, size_ofList, ← length_toList]
  exact List.length_filter_le _ _

end TimerHeap

end Testbench
