import Mathlib.Data.List.Basic
import Testbench.Naming
import Testbench.Suite

/-! Classes that extend one another. What a suite at the end of a chain of classes comes to is read off the chain:
the tests off all that was ever registered, and each field of a policy by walking up from the last class. -/

namespace Testbench

namespace SuiteBuilder

variable {ν σ : Type} {α : Type}

namespace Step

def inherit? : Step ν σ → Option Policy
  | .inherit policy => some policy
  | _ => none

def timeout? : Step ν σ → Option (Option Nat)
  | .timeout limit => some limit
  | _ => none

def registration? : Step ν σ → Option (PendingTest ν σ)
  | .register name overrides body => some { name, overrides, body }
  | _ => none

end Step

/-- What is said of one class. -/
structure ClassSpec (ν σ : Type) where
  name : String
  steps : List (Step ν σ)

/-- The last setting of a kind counts. -/
def ClassSpec.says? (cls : ClassSpec ν σ) (setting : Step ν σ → Option α) : Option α := cls.steps.reverse.findSome? setting

/-- The builder of the first of some classes, each of which extends the suite that was built of the one after it. -/
inductive Chain (fileStem : String) : List (ClassSpec ν σ) → SuiteBuilder ν σ → Prop where
  | first (cls : ClassSpec ν σ) : Chain fileStem [cls] ((new fileStem cls.name).steps cls.steps)
  | next {classes : List (ClassSpec ν σ)} {builder : SuiteBuilder ν σ} {suite : Suite ν σ}
      (chain : Chain fileStem classes builder) (built : builder.build = .ok suite) (cls : ClassSpec ν σ) :
      Chain fileStem (cls :: classes) ((extend suite cls.name).steps cls.steps)

/-- All that was registered along the chain, the oldest class first. -/
def registrations (classes : List (ClassSpec ν σ)) : List (PendingTest ν σ) :=
  classes.reverse.flatMap fun cls => cls.steps.filterMap Step.registration?

/-- The names in the order they were first registered. -/
def names (registered : List (PendingTest ν σ)) : List String := (registered.map (·.name)).eraseDups

def latest? (registered : List (PendingTest ν σ)) (name : String) : Option (PendingTest ν σ) :=
  registered.reverse.find? (·.name == name)

/-- The classes up to the first that says what it inherits. -/
def upToInherit : List (ClassSpec ν σ) → List (ClassSpec ν σ)
  | [] => []
  | cls :: classes => if (cls.says? Step.inherit?).isSome then [cls] else cls :: upToInherit classes

/-- A field of the policy of a class: its override in the nearest class that has one, or else its value in the policy
that the nearest class to say so inherits, or else in the default policy. -/
def effective (classes : List (ClassSpec ν σ)) (setting : Step ν σ → Option α) (field : Policy → α) : α :=
  ((upToInherit classes).findSome? (·.says? setting)).getD
    (field ((classes.findSome? (·.says? Step.inherit?)).getD {}))

/-- The tests of a builder are those registered, in order, each as it was registered last. -/
structure Lists (registered tests : List (PendingTest ν σ)) : Prop where
  order : tests.map (·.name) = names registered
  latest : ∀ test ∈ tests, ∃ last, latest? registered test.name = some last ∧ test.body = last.body ∧
    test.overrides = last.overrides

section

variable {builder : SuiteBuilder ν σ} {registered : List (PendingTest ν σ)} {fileStem : String}
  {classes : List (ClassSpec ν σ)}

theorem names_append (registered : List (PendingTest ν σ)) (test : PendingTest ν σ) : names (registered ++ [test]) =
    if test.name ∈ names registered then names registered else names registered ++ [test.name] := by
  simp only [names, List.map_append, List.map_cons, List.map_nil, List.eraseDups_append, List.mem_eraseDups,
    List.removeAll, List.filter_cons, List.filter_nil, List.elem_eq_mem]
  by_cases known : test.name ∈ registered.map (·.name)
  · simp only [known, decide_true, Bool.not_true, Bool.false_eq_true, if_false, if_true, List.eraseDups_nil, List.append_nil]
  · simp only [known, decide_false, Bool.not_false, if_true, if_false]
    rfl

theorem latest?_append (registered : List (PendingTest ν σ)) (test : PendingTest ν σ) (name : String) :
    latest? (registered ++ [test]) name = if test.name = name then some test else latest? registered name := by
  simp only [latest?, List.reverse_append, List.reverse_singleton, List.singleton_append, List.find?_cons]
  by_cases same : test.name = name
  · rw [if_pos same, beq_iff_eq.2 same]
  · rw [if_neg same, beq_eq_false_iff_ne.2 same]

/-- Registering keeps the order, and the new test is the latest of its name. -/
theorem Lists.register (lists : Lists registered builder.tests) (test : PendingTest ν σ) :
    Lists (registered ++ [test]) (builder.register test.name test.overrides test.body).tests := by
  have known : builder.tests.any (·.name == test.name) = true ↔ test.name ∈ names registered := by
    rw [← lists.order, List.any_eq_true, List.mem_map]
    simp only [beq_iff_eq]
  unfold SuiteBuilder.register
  dsimp only
  split
  next replaced =>
    refine ⟨?_, fun entry member => ?_⟩
    · rw [names_append, if_pos (known.1 replaced), ← lists.order, List.map_map]
      refine List.map_congr_left fun entry _ => ?_
      by_cases same : entry.name = test.name
      · simp [same]
      · simp [same]
    · obtain ⟨before, present, rfl⟩ := List.mem_map.1 member
      by_cases same : before.name = test.name
      · rw [if_pos (beq_iff_eq.2 same), latest?_append, if_pos rfl]
        exact ⟨test, rfl, rfl, rfl⟩
      · rw [if_neg (mt beq_iff_eq.1 same), latest?_append, if_neg (Ne.symm same)]
        exact lists.latest before present
  next new =>
    have unknown := mt known.2 new
    refine ⟨?_, fun entry member => ?_⟩
    · rw [names_append, if_neg unknown, ← lists.order, List.map_append]
      rfl
    · rw [latest?_append]
      obtain present | only := List.mem_append.1 member
      · have other : test.name ≠ entry.name := fun same =>
          unknown (lists.order ▸ same ▸ List.mem_map_of_mem present)
        rw [if_neg other]
        exact lists.latest entry present
      · obtain rfl := List.mem_singleton.1 only
        rw [if_pos rfl]
        exact ⟨test, rfl, rfl, rfl⟩

theorem Lists.steps (lists : Lists registered builder.tests) (steps : List (Step ν σ)) :
    Lists (registered ++ steps.filterMap Step.registration?) (builder.steps steps).tests := by
  induction steps generalizing builder registered with
  | nil => exact (List.append_nil registered).symm ▸ lists
  | cons step steps steps_ih =>
    cases step with
    | register name overrides body =>
      have more := @steps_ih (builder.register name overrides body) _ (lists.register { name, overrides, body })
      rwa [List.append_assoc, List.singleton_append] at more
    | _ => exact @steps_ih (builder.step _) registered lists

/-- A suite is built of good names only, and it has the builder's tests. -/
theorem build_ok_iff {suite : Suite ν σ} : builder.build = .ok suite ↔
    (∀ test ∈ builder.tests, isTestName test.name = true) ∧ suite = {
      fileStem := builder.fileStem
      className := builder.className
      classPolicy := builder.overrides.apply builder.inherited
      switchExpected := builder.switchExpected
      tests := builder.tests.map fun test => {
        name := test.name
        overrides := test.overrides
        policy := .resolve builder.inherited builder.overrides test.overrides
        body := test.body
        inherited := test.inherited } } := by
  unfold build
  split
  next bad found =>
    have member := List.mem_of_find?_eq_some found
    have refused := List.find?_some found
    refine ⟨nofun, fun ⟨good, _⟩ => ?_⟩
    rw [good bad member] at refused
    nomatch refused
  next none =>
    have good : ∀ test ∈ builder.tests, isTestName test.name = true := by simpa using none
    rw [Except.ok.injEq, eq_comm]
    exact ⟨fun same => ⟨good, same⟩, fun ⟨_, same⟩ => same⟩

theorem Lists.extend {suite : Suite ν σ} (lists : Lists registered builder.tests) (built : builder.build = .ok suite)
    (className : String) : Lists registered (extend suite className).tests := by
  obtain ⟨-, rfl⟩ := build_ok_iff.1 built
  refine ⟨?_, fun test member => ?_⟩
  · rw [← lists.order]
    simp [SuiteBuilder.extend]
  · simp only [SuiteBuilder.extend, List.map_map, List.mem_map, Function.comp_apply] at member
    obtain ⟨before, present, rfl⟩ := member
    exact lists.latest before present

theorem registrations_cons (cls : ClassSpec ν σ) (classes : List (ClassSpec ν σ)) :
    registrations (cls :: classes) = registrations classes ++ cls.steps.filterMap Step.registration? := by
  simp [registrations]

theorem Chain.lists (chain : Chain fileStem classes builder) : Lists (registrations classes) builder.tests := by
  induction chain with
  | first cls =>
    have none : Lists ([] : List (PendingTest ν σ)) (new fileStem cls.name).tests := ⟨rfl, nofun⟩
    have lists := none.steps cls.steps
    rwa [registrations_cons]
  | next _ built cls lists =>
    rw [registrations_cons]
    exact (lists.extend built cls.name).steps cls.steps

theorem says?_cons (step : Step ν σ) (steps : List (Step ν σ)) (name : String) (setting : Step ν σ → Option α) :
    ClassSpec.says? ⟨name, step :: steps⟩ setting = (ClassSpec.says? ⟨name, steps⟩ setting).or (setting step) := by
  simp [ClassSpec.says?, List.findSome?_append]

/-- What every step keeps unless it sets it is at the end what was said last. -/
theorem steps_says (cls : ClassSpec ν σ) (setting : Step ν σ → Option α) (field : SuiteBuilder ν σ → Option α)
    (law : ∀ builder step, field (builder.step step) = (setting step).or (field builder)) (builder : SuiteBuilder ν σ) :
    field (builder.steps cls.steps) = (cls.says? setting).or (field builder) := by
  obtain ⟨name, steps⟩ := cls
  induction steps generalizing builder with
  | nil => rfl
  | cons step steps steps_ih =>
    rw [says?_cons, Option.or_assoc, ← law]
    exact steps_ih (builder.step step)

/-- A registration changes nothing but the tests. -/
theorem register_settings (builder : SuiteBuilder ν σ) (name : String) (overrides : Overrides) (body : TestBody ν σ) :
    (builder.register name overrides body).inherited = builder.inherited ∧
      (builder.register name overrides body).overrides = builder.overrides := by
  unfold register
  dsimp only
  split
  · exact ⟨rfl, rfl⟩
  · exact ⟨rfl, rfl⟩

theorem steps_inherited (cls : ClassSpec ν σ) (builder : SuiteBuilder ν σ) :
    (builder.steps cls.steps).inherited = (cls.says? Step.inherit?).getD builder.inherited := by
  have said := steps_says cls Step.inherit? (fun builder => some builder.inherited) (fun builder step => by
    cases step with
    | register name overrides body => exact congrArg some (register_settings builder name overrides body).1
    | _ => rfl) builder
  rw [Option.or_some] at said
  exact Option.some.inj said

/-- A kind of setting, the override it makes and the field of a policy it decides. -/
structure Decides (setting : Step ν σ → Option α) (own : Overrides → Option α) (field : Policy → α) : Prop where
  silent : own {} = none
  applied : ∀ (overrides : Overrides) (base : Policy), field (overrides.apply base) = (own overrides).getD (field base)
  step : ∀ (builder : SuiteBuilder ν σ) (step : Step ν σ),
    own (builder.step step).overrides = (setting step).or (own builder.overrides)

section

variable {setting : Step ν σ → Option α} {own : Overrides → Option α} {field : Policy → α}

theorem Decides.steps (decides : Decides setting own field) (cls : ClassSpec ν σ) (builder : SuiteBuilder ν σ) :
    own (builder.steps cls.steps).overrides = (cls.says? setting).or (own builder.overrides) :=
  steps_says cls setting (fun builder => own builder.overrides) decides.step builder

theorem effective_single (cls : ClassSpec ν σ) : effective [cls] setting field =
    (cls.says? setting).getD (field ((cls.says? Step.inherit?).getD {})) := by
  have only : upToInherit [cls] = [cls] := by
    unfold upToInherit
    split <;> rfl
  simp only [effective, only, List.findSome?_cons, List.findSome?_nil]
  cases cls.says? setting <;> cases cls.says? Step.inherit? <;> rfl

/-- One class more decides for itself or leaves it to what it inherits, be that said or not. -/
theorem effective_cons (cls : ClassSpec ν σ) (classes : List (ClassSpec ν σ)) : effective (cls :: classes) setting field =
    (cls.says? setting).getD (((cls.says? Step.inherit?).map field).getD (effective classes setting field)) := by
  unfold effective
  rw [upToInherit]
  cases inherited : cls.says? Step.inherit? with
  | some policy =>
    simp only [Option.isSome_some, if_true, List.findSome?_cons, List.findSome?_nil, inherited]
    cases cls.says? setting <;> rfl
  | none =>
    simp only [Option.isSome_none, Bool.false_eq_true, if_false, List.findSome?_cons, inherited]
    cases cls.says? setting <;> rfl

theorem Chain.effective (chain : Chain fileStem classes builder) (decides : Decides setting own field) :
    field (builder.overrides.apply builder.inherited) = effective classes setting field := by
  induction chain with
  | first cls =>
    rw [decides.applied, decides.steps, steps_inherited, effective_single]
    simp only [new, decides.silent, Option.or_none]
  | @next classes builder suite _ built cls inherited =>
    obtain ⟨-, rfl⟩ := build_ok_iff.1 built
    rw [decides.applied, decides.steps, steps_inherited, effective_cons, ← inherited]
    simp only [extend, decides.silent, Option.or_none]
    cases cls.says? Step.inherit? <;> rfl

end

end

end SuiteBuilder

end Testbench
