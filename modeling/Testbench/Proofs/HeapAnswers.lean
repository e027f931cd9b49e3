import Mathlib.Data.Multiset.Sort
import Mathlib.Data.Prod.Lex
import Testbench.Proofs.HeapOrder

/-! The heap of alarms against a bag of pairs. Alarms may be put in again and again and be due together: what the heap
answers is what a multiset of deadlines and numbers answers, from which a least pair is taken each time. -/

namespace Testbench

/-- A deadline and a number. The deadline comes first in the order, too. -/
abbrev Pair := Nat ×ₗ Nat

namespace Alarm

def pair (alarm : Alarm) : Pair := toLex (alarm.deadline, alarm.id)

theorem pair_le_iff (a b : Alarm) : a.pair ≤ b.pair ↔ a ≤ b := Prod.Lex.toLex_le_toLex

end Alarm

namespace TimerHeap

inductive Request where
  | insert (id deadline : Nat)
  | pop
  | peekDeadline
  | retain (live : Nat → Bool)
  | clear
  | size
  | isEmpty

inductive Reply where
  | done
  | popped (pair : Option Pair)
  | due (deadline : Option Nat)
  | dropped (count : Nat)
  | counted (count : Nat)
  | empty (isEmpty : Bool)
deriving DecidableEq

def answer (heap : TimerHeap) : Request → Reply × TimerHeap
  | .insert id deadline => (.done, heap.insert id deadline)
  | .pop =>
    match heap.pop with
    | none => (.popped none, heap)
    | some (alarm, rest) => (.popped (some alarm.pair), rest)
  | .peekDeadline => (.due heap.peekDeadline, heap)
  | .retain live =>
    let (count, kept) := heap.retain live
    (.dropped count, kept)
  | .clear => (.done, .empty)
  | .size => (.counted heap.size, heap)
  | .isEmpty => (.empty heap.isEmpty, heap)

namespace Bag

def least? (bag : Multiset Pair) : Option Pair := (bag.sort (· ≤ ·)).head?

/-- What a heap with these pairs has to answer, and the pairs it has then. -/
def answer (bag : Multiset Pair) : Request → Reply × Multiset Pair
  | .insert id deadline => (.done, toLex (deadline, id) ::ₘ bag)
  | .pop =>
    match least? bag with
    | none => (.popped none, bag)
    | some pair => (.popped (some pair), bag.erase pair)
  | .peekDeadline => (.due ((least? bag).map fun pair => (ofLex pair).1), bag)
  | .retain live =>
    (.dropped (bag.filter fun pair => live (ofLex pair).2 = false).card, bag.filter fun pair => live (ofLex pair).2 = true)
  | .clear => (.done, 0)
  | .size => (.counted bag.card, bag)
  | .isEmpty => (.empty (bag = 0), bag)

theorem least?_eq_none_iff {bag : Multiset Pair} : least? bag = none ↔ bag = 0 := by
  rw [least?, List.head?_eq_none_iff, ← List.length_eq_zero_iff, Multiset.length_sort, Multiset.card_eq_zero]

/-- It is there, and no other comes before it. -/
theorem least?_eq_some_iff {bag : Multiset Pair} {pair : Pair} :
    least? bag = some pair ↔ pair ∈ bag ∧ ∀ other ∈ bag, pair ≤ other := by
  have sorted := Multiset.pairwise_sort bag (· ≤ ·)
  have members (other : Pair) : other ∈ bag.sort (· ≤ ·) ↔ other ∈ bag := Multiset.mem_sort _
  rw [least?]
  cases listed : bag.sort (· ≤ ·) with
  | nil =>
    simp only [listed, List.not_mem_nil, false_iff] at members
    simp [members]
  | cons first rest =>
    rw [listed] at sorted members
    have least := (List.pairwise_cons.mp sorted).1
    have isFirst (other : Pair) (member : other ∈ bag) : first ≤ other := by
      obtain rfl | later := List.mem_cons.mp ((members other).mpr member)
      · exact le_refl _
      · exact least other later
    rw [List.head?_cons, Option.some.injEq]
    constructor
    · rintro rfl
      exact ⟨(members _).mp (List.mem_cons_self ..), isFirst⟩
    · rintro ⟨member, isLeast⟩
      exact le_antisymm (isFirst pair member) (isLeast first ((members _).mp (List.mem_cons_self ..)))

end Bag

/-- One request after the other: the answers, and what is left in the end. -/
def inTurn {S : Type} (answer : S → Request → Reply × S) (state : S) : List Request → List Reply × S
  | [] => ([], state)
  | request :: rest =>
    let (reply, next) := answer state request
    let (replies, last) := inTurn answer next rest
    (reply :: replies, last)

/-- Pops until nothing is left. -/
def drain (heap : TimerHeap) : List Alarm :=
  match _popped : heap.pop with
  | none => []
  | some (alarm, rest) => alarm :: rest.drain
termination_by heap.size
decreasing_by
  have smaller := size_pop _popped
  omega

def pairs (heap : TimerHeap) : Multiset Pair := ↑(heap.toList.map Alarm.pair)

structure Represents (heap : TimerHeap) (bag : Multiset Pair) : Prop where
  ordered : heap.Ordered
  pairs : heap.pairs = bag

theorem card_pairs (heap : TimerHeap) : heap.pairs.card = heap.size := by
  rw [pairs, Multiset.coe_card, List.length_map, length_toList]

theorem pairs_insert (heap : TimerHeap) (id deadline : Nat) :
    (heap.insert id deadline).pairs = toLex (deadline, id) ::ₘ heap.pairs :=
  Multiset.coe_eq_coe.mpr ((toList_insert heap id deadline).map Alarm.pair)

theorem pairs_retain (heap : TimerHeap) (live : Nat → Bool) :
    (heap.retain live).2.pairs = heap.pairs.filter fun pair => live (ofLex pair).2 = true := by
  rw [pairs, pairs, Multiset.filter_coe, List.filter_map]
  exact Multiset.coe_eq_coe.mpr (((toList_retain heap live).map Alarm.pair).trans (.of_eq (by simp [Function.comp_def, Alarm.pair])))

variable {heap rest : TimerHeap} {alarm : Alarm}

theorem pairs_pop (popped : heap.pop = some (alarm, rest)) : heap.pairs = alarm.pair ::ₘ rest.pairs :=
  Multiset.coe_eq_coe.mpr ((toList_pop popped).map Alarm.pair)

theorem pairs_pop_none (popped : heap.pop = none) : heap.pairs = 0 := by
  rw [pairs, toList_pop_none popped]
  rfl

theorem least?_of_pop (ordered : heap.Ordered) (popped : heap.pop = some (alarm, rest)) :
    Bag.least? heap.pairs = some alarm.pair := by
  rw [pairs_pop popped, Bag.least?_eq_some_iff]
  refine ⟨Multiset.mem_cons_self _ _, fun other member => ?_⟩
  obtain rfl | later := Multiset.mem_cons.mp member
  · exact le_refl _
  · obtain ⟨found, inRest, rfl⟩ := List.mem_map.mp (Multiset.mem_coe.mp later)
    exact (alarm.pair_le_iff found).mpr ((pop_least ordered popped).2 found inRest)

theorem peekDeadline_eq (heap : TimerHeap) : heap.peekDeadline = heap.pop.map fun popped => popped.1.deadline := by
  cases heap <;> rfl

theorem isEmpty_iff (heap : TimerHeap) : heap.isEmpty = true ↔ heap.pairs = 0 := by
  rw [← Multiset.card_eq_zero, card_pairs]
  cases heap <;> simp [isEmpty, size]

/-- As many are dropped as are not live. -/
theorem dropped_retain (heap : TimerHeap) (live : Nat → Bool) :
    (heap.retain live).1 = (heap.pairs.filter fun pair => live (ofLex pair).2 = false).card := by
  have parts := Multiset.filter_add_not (fun pair : Pair => live (ofLex pair).2 = true) heap.pairs
  have counts := congrArg Multiset.card parts
  simp only [Multiset.card_add, Bool.not_eq_true] at counts
  have kept := card_pairs (heap.retain live).2
  rw [pairs_retain] at kept
  change heap.size - (heap.retain live).2.size = _
  rw [← card_pairs, ← kept]
  omega

namespace Represents

variable {bag : Multiset Pair}

/-- One request is answered as the bag answers it. -/
theorem answer (represents : Represents heap bag) (request : Request) :
    (heap.answer request).1 = (Bag.answer bag request).1 ∧
      Represents (heap.answer request).2 (Bag.answer bag request).2 := by
  obtain ⟨ordered, rfl⟩ := represents
  cases request with
  | insert id deadline => exact ⟨rfl, ordered_insert ordered id deadline, pairs_insert heap id deadline⟩
  | pop =>
    simp only [TimerHeap.answer, Bag.answer]
    cases popped : heap.pop with
    | none =>
      rw [Bag.least?_eq_none_iff.mpr (pairs_pop_none popped)]
      exact ⟨rfl, ordered, rfl⟩
    | some taken =>
      obtain ⟨alarm, rest⟩ := taken
      rw [least?_of_pop ordered popped]
      have left : rest.pairs = heap.pairs.erase alarm.pair := by rw [pairs_pop popped, Multiset.erase_cons_head]
      exact ⟨rfl, (pop_least ordered popped).1, left⟩
  | peekDeadline =>
    refine ⟨?_, ordered, rfl⟩
    simp only [TimerHeap.answer, Bag.answer, peekDeadline_eq]
    cases popped : heap.pop with
    | none =>
      rw [Bag.least?_eq_none_iff.mpr (pairs_pop_none popped)]
      rfl
    | some taken =>
      rw [least?_of_pop ordered popped]
      rfl
  | retain live =>
    refine ⟨?_, ordered_retain heap live, pairs_retain heap live⟩
    exact congrArg Reply.dropped (dropped_retain heap live)
  | clear => exact ⟨rfl, trivial, rfl⟩
  | size => exact ⟨congrArg Reply.counted (card_pairs heap).symm, ordered, rfl⟩
  | isEmpty =>
    refine ⟨congrArg Reply.empty ?_, ordered, rfl⟩
    rw [Bool.eq_iff_iff, isEmpty_iff, decide_eq_true_iff]

/-- All requests are. -/
theorem inTurn (represents : Represents heap bag) (requests : List Request) :
    (TimerHeap.inTurn TimerHeap.answer heap requests).1 = (TimerHeap.inTurn Bag.answer bag requests).1 ∧
      Represents (TimerHeap.inTurn TimerHeap.answer heap requests).2 (TimerHeap.inTurn Bag.answer bag requests).2 := by
  induction requests generalizing heap bag with
  | nil => exact ⟨rfl, represents⟩
  | cons request rest ih =>
    obtain ⟨reply, next⟩ := represents.answer request
    obtain ⟨replies, last⟩ := ih next
    exact ⟨congrArg₂ List.cons reply replies, last⟩

/-- Draining lists the pairs as they are sorted. -/
theorem drain (represents : Represents heap bag) : heap.drain.map Alarm.pair = bag.sort (· ≤ ·) := by
  obtain ⟨ordered, rfl⟩ := represents
  fun_induction TimerHeap.drain heap with
  | case1 heap popped => rw [pairs_pop_none popped, Multiset.sort_zero, List.map_nil]
  | case2 heap alarm rest popped ih =>
    have least := Bag.least?_eq_some_iff.mp (least?_of_pop ordered popped)
    rw [pairs_pop popped] at least ⊢
    rw [Multiset.sort_cons _ _ _ fun other member => least.2 other (Multiset.mem_cons_of_mem member), List.map_cons,
      ih (pop_least ordered popped).1]

end Represents

/-- Whatever is asked of a new heap, it answers as the bag of its pairs does, and when it is drained in the end it
yields the pairs left in the bag, none lost and none twice, from the least to the greatest. -/
theorem answers_as_bag (requests : List Request) :
    let ran := inTurn answer .empty requests
    let expected := inTurn Bag.answer 0 requests
    let drained := ran.2.drain.map Alarm.pair
    ran.1 = expected.1 ∧ ↑drained = expected.2 ∧ drained.Pairwise (· ≤ ·) := by
  have start : Represents .empty 0 := ⟨trivial, rfl⟩
  obtain ⟨answered, left⟩ := start.inTurn requests
  refine ⟨answered, ?_, ?_⟩
  · rw [left.drain]
    exact Multiset.sort_eq _ _
  · rw [left.drain]
    exact Multiset.pairwise_sort _ _

end TimerHeap

end Testbench
