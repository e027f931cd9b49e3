import Testbench.Proofs.CountAgreement
import Testbench.Proofs.HubJournal
import Testbench.Proofs.LazyQueueLaws

/-! A hub that counts its switches against one that does not. A program that the count does not sway comes by the same
moments on both, and nothing but the count tells them apart. The count itself misses no switch. -/

namespace Testbench

variable {ν σ : Type} {α : Type} {leeway : Leeway ν σ} {first second : Bench ν σ}

/-- Only the count tells that the first bench counts its switches and the second does not. -/
structure Transparent (leeway : Leeway ν σ) (counted bare : Bench ν σ) : Prop where
  related : UpToCounts leeway counted bare
  clock : counted.clock = bare.clock
  firings : counted.firings = bare.firings
  /-- Everything the hub did, in the same order. -/
  journal : counted.hub.journal = bare.hub.journal
  armed : counted.hub.queue.armed.map (·.1) = bare.hub.queue.armed.map (·.1)
  liveHandles : counted.liveHandles = bare.liveHandles
  diagnostics : counted.diagnostics = bare.diagnostics
  uncounted : bare.switchCount = none

theorem UpToCounts.transparent (related : UpToCounts leeway first second) (bare : second.front = .direct) :
    Transparent leeway first second where
  related := related
  clock := by cases related; rfl
  firings := by cases related; rfl
  journal := by cases related; rfl
  armed := by
    obtain ⟨-, queued, -, -, -⟩ := related
    exact queued.alarms_armed
  liveHandles := related.liveHandles
  diagnostics := by cases related; rfl
  uncounted := by unfold World.switchCount; rw [bare]

theorem World.switchCount_of_plus {Q : Type 1} {world : World Q ν σ} {switches : Nat}
    (front : world.front = (Front.counting 0).plus switches) : world.switchCount = some switches := by
  rw [World.switchCount, front]
  exact congrArg some (Nat.zero_add switches)

/-- The runs end in the same way, and come by the same moments. -/
structure RunsAlike (leeway : Leeway ν σ) (R : α → α → Prop) (turns : Nat) (program other : Program ν σ α)
    (first second : Bench ν σ) : Prop where
  ends : Option.Rel (fun counted bare => R counted.1 bare.1 ∧ Transparent leeway counted.2 bare.2)
    (program.run turns first) (other.run turns second)
  forth : ∀ moment, program.Meets turns first moment →
    ∃ bare, other.Meets turns second bare ∧ Transparent leeway moment bare
  back : ∀ bare, other.Meets turns second bare →
    ∃ moment, program.Meets turns first moment ∧ Transparent leeway moment bare

theorem UpToCounts.runsAlike (related : UpToCounts leeway first second) (bare : second.front = .direct) (turns : Nat)
    {R : α → α → Prop} {program other : Program ν σ α} (unswayed : program.Unswayed leeway R other) :
    RunsAlike leeway R turns program other first second where
  ends := by
    have together := UpToCounts.simulation.run turns unswayed related
    -- a bench that does not count has never counted
    have front (value : α) (after : Bench ν σ) (ran : other.run turns second = some (value, after)) :
        after.front = .direct := by rw [Program.front_run ran, bare]; rfl
    generalize program.run turns first = ran, other.run turns second = ran' at together front ⊢
    cases together with
    | none => exact .none
    | some together => exact .some ⟨together.1, together.2.transparent (front _ _ rfl)⟩
  forth moment met := by
    obtain ⟨moment', met, related⟩ := UpToCounts.simulation.meets met unswayed related
    obtain ⟨switches, came⟩ := Program.meets_iff_comes.mp met
    exact ⟨moment', met, related.transparent (by rw [came.front, bare]; rfl)⟩
  back moment met := by
    obtain ⟨moment', met', related⟩ := UpToCounts.simulation.meets met unswayed.symm related.symm
    obtain ⟨switches, came⟩ := Program.meets_iff_comes.mp met
    exact ⟨moment', met', related.symm.transparent (by rw [came.front, bare]; rfl)⟩

/-- At every moment of the run, and at its end, the count is the number of switches that have begun. -/
structure CountsSwitches (turns : Nat) (program : Program ν σ α) (bench : Bench ν σ) : Prop where
  moments : ∀ switches moment, program.Comes turns bench switches moment → moment.switchCount = some switches
  all : ∀ moment, program.Meets turns bench moment ↔ ∃ switches, program.Comes turns bench switches moment
  ends : ∀ value after, program.run turns bench = some (value, after) →
    after.switchCount = some (program.switchesBegun turns bench)

theorem Bench.countsSwitches (turns : Nat) (program : Program ν σ α) (memory : σ) :
    CountsSwitches turns program (Bench.counting memory) where
  moments _ _ came := World.switchCount_of_plus came.front
  all _ := Program.meets_iff_comes
  ends _ _ ran := World.switchCount_of_plus (Program.front_run ran)

/-- One run may read a count where the other reads none. -/
structure Leeway.Admits (leeway : Leeway ν σ) : Prop where
  unread : leeway.count none none
  read : ∀ switches, leeway.count (some switches) none

theorem Bench.fresh_related {memory memory' : σ} (admits : leeway.Admits) (related : leeway.memory memory memory') :
    UpToCounts leeway (Bench.counting memory : Bench ν σ) (Bench.fresh .direct memory') :=
  .intro ⟨⟨nofun, nofun⟩, admits.unread, fun _ => admits.read _⟩ ⟨rfl, .nil⟩ .nil .nil related

/-- A hub that counts its switches misses none of them. It does the same for every program as a hub that does not, if the
count is kept from the program; and if the program reads the count, the two differ only in what it makes of it. -/
theorem Bench.counting_transparent (turns : Nat) (program : Program ν σ α) (memory : σ) :
    CountsSwitches turns program (Bench.counting memory) ∧
    RunsAlike .unread Eq turns program.masked program (Bench.counting memory) (Bench.fresh .direct memory) ∧
    ∀ (leeway : Leeway ν σ) (R : α → α → Prop) (other : Program ν σ α) (memory' : σ), leeway.Admits →
      leeway.memory memory memory' → program.Unswayed leeway R other →
        RunsAlike leeway R turns program other (Bench.counting memory) (Bench.fresh .direct memory') := by
  have masked : Leeway.Admits (Leeway.unread : Leeway ν σ) := ⟨rfl, fun _ => rfl⟩
  refine ⟨Bench.countsSwitches turns program memory, ?_, fun leeway R other memory' admits related unswayed => ?_⟩
  · exact (Bench.fresh_related masked rfl).runsAlike rfl turns program.masked_unswayed
  · exact (Bench.fresh_related admits related).runsAlike rfl turns unswayed

/-- A test with a callback that is refused a switch, and which hangs until its guard interrupts it. -/
def busyTest : TestBody Unit Nat := fun _ => do
  let _ ← Task.orPanic (Program.scheduleCall 1 "eager" (Task.attempt .switch))
  (Task.attempt (.sleep 2) : Task Unit Nat HubError Unit).ofHub
  let _ ← (Task.attempt .switch : Task Unit Nat HubError Unit).outcome

/-- The test is checked for leaks; at last there is nothing left to wait for, and the switches are counted. -/
def countedTest : Program Unit Nat (Option Failure × Option Failure × Option Nat) := do
  let outcome ← (instrument { timeout := some 9 } busyTest { case := ⟨0⟩ }).run
  let last ← (Task.attempt .switch : Task Unit Nat HubError Unit).ofHub.run
  return (Harness.settle outcome, Harness.settle last, ← .ask (.hub .switchCount))

theorem busyTest_asks (fixture : Fixture Unit Nat) : (busyTest fixture).run.Asks fun asked => asked.ofCount = false := by
  refine ⟨⟨rfl, fun _ => trivial⟩, fun scheduled => ?_⟩
  cases scheduled with
  | error panic => trivial
  | ok timer =>
    refine ⟨rfl, fun slept => ?_⟩
    rcases slept with (error | panic) | _
    · trivial
    · trivial
    · exact ⟨rfl, fun _ => trivial⟩

theorem countedTest_unswayed : countedTest.Unswayed Leeway.unread
    (fun counted bare => counted.1 = bare.1 ∧ counted.2.1 = bare.2.1) countedTest := by
  have body (fixture : Fixture Unit Nat) : (busyTest fixture).Unswayed Leeway.unread Eq (busyTest fixture) :=
    .of_same (busyTest_asks fixture).unswayed
  have instrumented := instrument_unswayed { timeout := some 9 } (body { case := ⟨0⟩ }) (.pure rfl)
  refine Program.Unswayed.bind_eq instrumented.same fun outcome => ?_
  have last : (Task.attempt .switch : Task Unit Nat HubError Unit).ofHub.run.Asks fun asked => asked.ofCount = false :=
    ⟨rfl, fun _ => trivial⟩
  refine Program.Unswayed.bind_eq last.unswayed fun last => ?_
  exact Program.Unswayed.bind (.ask .switchCount) fun _ _ _ => .pure ⟨rfl, rfl⟩

theorem countedTest_transparent : ∃ counted bare : Bench Unit Nat,
    countedTest.run 9 (Bench.counting 0) = some ((none, some (.hub .loopExit), some 4), counted) ∧
    countedTest.run 9 (Bench.fresh .direct 0) = some ((none, some (.hub .loopExit), none), bare) ∧
    counted.firings.map (fun firing => (firing.alarm, firing.clock)) = [(⟨9, 0⟩, 9), (⟨2, 2⟩, 2), (⟨1, 1⟩, 1)] ∧
    counted.switchCount = some 4 ∧ Transparent .unread counted bare := by
  have runs : (countedTest.run 9 (Bench.counting 0)).map (fun (answer, after) =>
      (answer, after.firings.map fun firing => (firing.alarm, firing.clock))) =
        some ((none, some (.hub .loopExit), some 4), [(⟨9, 0⟩, 9), (⟨2, 2⟩, 2), (⟨1, 1⟩, 1)]) := by decide +kernel
  have begun : countedTest.switchesBegun 9 (Bench.counting 0) = 4 := by decide +kernel
  have bareRuns : (countedTest.run 9 (Bench.fresh .direct 0)).map (·.1) =
      some (none, some (.hub .loopExit), none) := by decide +kernel
  obtain ⟨counts, -, alike⟩ := Bench.counting_transparent 9 countedTest 0
  have ends := (alike .unread _ countedTest 0 ⟨rfl, fun _ => rfl⟩ rfl countedTest_unswayed).ends
  obtain ⟨⟨answer, counted⟩, ran, facts⟩ := Option.map_eq_some_iff.mp runs
  obtain ⟨⟨answer', bare⟩, bareRan, rfl⟩ := Option.map_eq_some_iff.mp bareRuns
  obtain ⟨rfl, firings⟩ := Prod.mk.inj facts
  have count := counts.ends _ _ ran
  rw [begun] at count
  rw [ran, bareRan] at ends
  cases ends with
  | some related => exact ⟨counted, bare, ran, bareRan, firings, count, related.2⟩

end Testbench
