/-!
A registry keeps one value for each key it holds. The objects a test shares with the callbacks of
the hub live in registries, and the keys are their identities.
-/

namespace Testbench

/-- The keys in use with their values, latest first. -/
structure Registry (κ : Type u) (α : Type v) where
  entries : List (κ × α) := []

namespace Registry

variable {κ : Type u} {α : Type v} [DecidableEq κ]

def empty : Registry κ α := {}

def get? (registry : Registry κ α) (key : κ) : Option α :=
  (registry.entries.find? fun entry => entry.1 = key).map (·.2)

def contains (registry : Registry κ α) (key : κ) : Bool := (registry.get? key).isSome

def erase (registry : Registry κ α) (key : κ) : Registry κ α :=
  ⟨registry.entries.filter fun entry => entry.1 ≠ key⟩

/-- The value takes the place of any the key had. -/
def set (registry : Registry κ α) (key : κ) (value : α) : Registry κ α :=
  ⟨(key, value) :: (registry.erase key).entries⟩

def size (registry : Registry κ α) : Nat := registry.entries.length

@[simp] theorem get?_empty (key : κ) : (empty : Registry κ α).get? key = none := rfl

@[simp] theorem get?_set_self (registry : Registry κ α) (key : κ) (value : α) :
    (registry.set key value).get? key = some value := by
  simp [get?, set]

theorem get?_erase_self (registry : Registry κ α) (key : κ) :
    (registry.erase key).get? key = none := by
  simp [get?, erase, List.find?_filter]

theorem get?_erase_of_ne (registry : Registry κ α) {key other : κ} (different : other ≠ key) :
    (registry.erase key).get? other = registry.get? other := by
  simp only [get?, erase, List.find?_filter]
  congr 2
  funext entry
  by_cases same : entry.1 = other
  · simp [same, different]
  · simp [same]

theorem get?_set_of_ne (registry : Registry κ α) {key other : κ} (value : α) (different : other ≠ key) :
    (registry.set key value).get? other = registry.get? other := by
  rw [← get?_erase_of_ne registry different]
  simp [get?, set, Ne.symm different]

end Registry

end Testbench
