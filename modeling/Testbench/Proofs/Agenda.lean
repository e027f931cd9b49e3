import Mathlib.Data.List.Sort
import Mathlib.Data.Prod.Lex
import Testbench.Hub.Alarm

/-! The ideal queue of timers: a list of the armed ones in the order they fire in. A cancelled timer is gone
at once, and there is never anything to tidy up. -/

namespace Testbench

universe u

/-- By deadline, and those of one deadline by number. -/
def Agenda.place {α : Type u} (timer : Alarm × α) : Nat ×ₗ Nat := toLex (timer.1.deadline, timer.1.id)

def Agenda.Before {α : Type u} (first second : Alarm × α) : Prop := place first ≤ place second

structure Agenda (α : Type u) where
  /-- The next to fire first. -/
  timers : List (Alarm × α)
  sorted : timers.Pairwise Agenda.Before

namespace Agenda

variable {α : Type u}

instance : DecidableRel (Before (α := α)) := fun first second => inferInstanceAs (Decidable (place first ≤ place second))

instance : Std.Total (Before (α := α)) := ⟨fun first second => le_total (place first) (place second)⟩

instance : IsTrans (Alarm × α) Before := ⟨fun _ _ _ => le_trans⟩

def empty : Agenda α := ⟨[], .nil⟩

def arm (agenda : Agenda α) (id deadline : Nat) (action : α) : Agenda α :=
  ⟨agenda.timers.orderedInsert Before (⟨deadline, id⟩, action), agenda.sorted.orderedInsert _ _⟩

def isArmed (agenda : Agenda α) (id : Nat) : Bool := agenda.timers.any (·.1.id == id)

def remove (agenda : Agenda α) (id : Nat) : Agenda α :=
  ⟨agenda.timers.filter (·.1.id ≠ id), agenda.sorted.sublist List.filter_sublist⟩

def next? : Agenda α → Option ((Alarm × α) × Agenda α)
  | ⟨[], _⟩ => none
  | ⟨timer :: rest, sorted⟩ => some (timer, ⟨rest, sorted.of_cons⟩)

theorem before_iff {first second : Alarm × α} : Before first second ↔ first.1 ≤ second.1 := Prod.Lex.toLex_le_toLex

theorem isArmed_iff {agenda : Agenda α} {id : Nat} :
    agenda.isArmed id = true ↔ ∃ timer ∈ agenda.timers, timer.1.id = id := by
  simp [isArmed]

theorem arm_perm (agenda : Agenda α) (id deadline : Nat) (action : α) :
    (agenda.arm id deadline action).timers.Perm ((⟨deadline, id⟩, action) :: agenda.timers) :=
  List.perm_orderedInsert ..

theorem next?_eq_none_iff {agenda : Agenda α} : agenda.next? = none ↔ agenda.timers = [] := by
  match agenda with
  | ⟨[], _⟩ => exact iff_of_true rfl rfl
  | ⟨_ :: _, _⟩ => exact iff_of_false nofun nofun

/-- The least of the timers is in front, however else they are listed. -/
theorem next?_eq_some {agenda : Agenda α} {timer : Alarm × α} {rest : List (Alarm × α)}
    (same : (timer :: rest).Perm agenda.timers) (least : ∀ other ∈ rest, timer.1 < other.1) :
    ∃ left : Agenda α, agenda.next? = some (timer, left) ∧ rest.Perm left.timers := by
  match agenda with
  | ⟨[], _⟩ => cases same.eq_nil
  | ⟨front :: others, sorted⟩ =>
    obtain rfl | behind := List.mem_cons.mp (same.mem_iff.mp (List.mem_cons_self ..))
    · exact ⟨⟨others, sorted.of_cons⟩, rfl, same.cons_inv⟩
    · -- What stands in front would be both before the timer and after it.
      have before : front.1 ≤ timer.1 := before_iff.mp ((List.pairwise_cons.mp sorted).1 timer behind)
      obtain rfl | later := List.mem_cons.mp (same.mem_iff.mpr (List.mem_cons_self ..))
      · exact ⟨⟨others, sorted.of_cons⟩, rfl, same.cons_inv⟩
      · exact ((least front later).2 before).elim

end Agenda

end Testbench
