import Testbench.Time

/-!
Alarms: a timer's identity and the instant it is due. They fire by deadline, and those of one
deadline in the order they were armed.
-/

namespace Testbench

structure Alarm where
  deadline : Nat
  id : Nat
deriving DecidableEq

namespace Alarm

protected def le (a b : Alarm) : Prop :=
  a.deadline < b.deadline ∨ a.deadline = b.deadline ∧ a.id ≤ b.id

instance : LE Alarm := ⟨Alarm.le⟩

instance : LT Alarm := ⟨fun a b => a ≤ b ∧ ¬ b ≤ a⟩

instance (a b : Alarm) : Decidable (a ≤ b) := inferInstanceAs (Decidable (_ ∨ _))

theorem le_def (a b : Alarm) :
    a ≤ b ↔ a.deadline < b.deadline ∨ a.deadline = b.deadline ∧ a.id ≤ b.id := Iff.rfl

theorem le_refl (a : Alarm) : a ≤ a := Or.inr ⟨rfl, Nat.le_refl _⟩

theorem le_trans {a b c : Alarm} (first : a ≤ b) (second : b ≤ c) : a ≤ c := by
  rw [le_def] at *
  omega

theorem le_total (a b : Alarm) : a ≤ b ∨ b ≤ a := by
  rw [le_def, le_def]
  omega

end Alarm

end Testbench
