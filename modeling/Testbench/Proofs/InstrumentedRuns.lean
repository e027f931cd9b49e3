import Testbench.Proofs.RunSequences
import Testbench.Suite

/-! What an instrumented test does. Every invocation of its body has a guard of its own, and where leaks are checked
the fixture cleans up after each that returns, until one leaves as many live handles as it found. -/

namespace Testbench

variable {ν σ : Type} {Q : Type 1} [TimerQueue (Action ν σ) Q]

namespace World

/-- The timeout that guards an invocation which begins now. -/
def guardOf (world : World Q ν σ) (limit : Nat) : Timeout :=
  { (world.newTimeout (some limit)).1 with message := some "test timed out" }

def startGuard (world : World Q ν σ) : Option Nat → Except Panic Unit × World Q ν σ
  | none => (.ok (), world)
  | some limit => (world.newTimeout (some limit)).2.startTimeout (world.guardOf limit)

def swept (world : World Q ν σ) : World Q ν σ := world.setQueue (TimerQueue.collect world.hub.queue)

/-- The live handles are counted, and the count is noted. -/
def sampled (world : World Q ν σ) : World Q ν σ := world.note (.sampled world.liveHandles)

end World

/-- One invocation of the body of a test. -/
structure Invocation (Q : Type 1) (ν σ : Type) where
  /-- The guard is not armed yet. -/
  before : World Q ν σ
  begun : World Q ν σ
  outcome : Except (Stop Failure) Unit
  ended : World Q ν σ
  /-- The guard is disarmed, and whoever is to clean up has done so. -/
  after : World Q ν σ

namespace Invocation

def left (invocation : Invocation Q ν σ) (limit : Option Nat) : World Q ν σ :=
  invocation.ended.endLimit (limit.map invocation.before.guardOf)

/-- By how much the live handles have changed. -/
def change (invocation : Invocation Q ν σ) : Int :=
  invocation.after.liveHandles - invocation.before.liveHandles

/-- The difference of the counts is a signed word of 64 bits. -/
def Fits (invocation : Invocation Q ν σ) : Prop :=
  -Int.pow 2 63 ≤ invocation.change ∧ invocation.change < Int.pow 2 63

/-- The invocation succeeds, and yet it leaves other live handles than it found. -/
structure Grows (invocation : Invocation Q ν σ) : Prop where
  passed : invocation.outcome = .ok ()
  fits : invocation.Fits
  changed : invocation.change ≠ 0

/-- The live handles are counted again after an invocation that succeeded. -/
def next (invocation : Invocation Q ν σ) : World Q ν σ :=
  match invocation.outcome with
  | .ok () => invocation.after.sampled
  | .error _ => invocation.after

end Invocation

section

variable (turns : Nat) (limit : Option Nat) (test : TestBody ν σ) (fixture : Fixture ν σ)

/-- The body runs from the world in which its guard is armed. -/
structure Invokes (invocation : Invocation Q ν σ) : Prop where
  armed : invocation.before.startGuard limit = (.ok (), invocation.begun)
  ran : (test fixture).run.run turns invocation.begun = some (invocation.outcome, invocation.ended)

/-- The fixture cleans up after an invocation that returned. -/
def CleansUp (invocation : Invocation Q ν σ) : Prop :=
  match invocation.outcome with
  | .error (.panicked _) => invocation.after = invocation.left limit
  | _ => fixture.cleanup.run turns (invocation.left limit) = some (.ok (), invocation.after)

/-- One iteration of the leak check, which begins at a world. -/
structure Iterates (world : World Q ν σ) (invocation : Invocation Q ν σ) : Prop extends
    Invokes turns limit test fixture invocation where
  before : invocation.before = world.swept.sampled
  cleaned : CleansUp turns limit fixture invocation

/-- The iterations from one world to another. -/
inductive Follows : World Q ν σ → List (Invocation Q ν σ) → World Q ν σ → Prop where
  | none {world : World Q ν σ} : Follows world [] world
  | more {world after : World Q ν σ} {invocation : Invocation Q ν σ} {later : List (Invocation Q ν σ)}
      (first : Iterates turns limit test fixture world invocation) (rest : Follows invocation.next later after) :
      Follows world (invocation :: later) after

/-- The invocation that begins here does not finish, or the fixture does not finish cleaning up after it. -/
inductive Stalls (before : World Q ν σ) : Prop where
  | body {begun : World Q ν σ} (armed : before.startGuard limit = (.ok (), begun))
      (stuck : (test fixture).run.run turns begun = none)
  | cleanup {invocation : Invocation Q ν σ} (here : invocation.before = before)
      (invokes : Invokes turns limit test fixture invocation)
      (returned : ∀ panic, invocation.outcome ≠ .error (.panicked panic))
      (stuck : fixture.cleanup.run turns (invocation.left limit) = none)

/-- What comes of an invocation and of cleaning up after it. -/
inductive Iterated (before : World Q ν σ) : Option (Except (Stop Failure) Unit × World Q ν σ) → Prop where
  | stuck (stalls : Stalls turns limit test fixture before) : Iterated before none
  /-- No clock can express when the time of the guard is over. -/
  | unarmed {panic : Panic} {after : World Q ν σ} (refused : before.startGuard limit = (.error panic, after)) :
      Iterated before (some (.error (.panicked panic), after))
  | invoked (invocation : Invocation Q ν σ) (here : invocation.before = before)
      (invokes : Invokes turns limit test fixture invocation) (cleaned : CleansUp turns limit fixture invocation) :
      Iterated before (some (invocation.outcome, invocation.after))

/-- How the iterations of a leak check end that has so many of them left, and some deltas from before. -/
inductive Concludes (left : Nat) (deltas : List Int) :
    List (Invocation Q ν σ) → World Q ν σ → Except (Stop Failure) (List Int) → World Q ν σ → Prop where
  | exhausted {invocations : List (Invocation Q ν σ)} {mid : World Q ν σ}
      (grew : ∀ invocation ∈ invocations, invocation.Grows) (all : invocations.length = left) :
      Concludes left deltas invocations mid
        (.error (.failed (.growth (deltas ++ invocations.map Invocation.change)))) mid
  | unarmed {invocations : List (Invocation Q ν σ)} {mid after : World Q ν σ} {panic : Panic}
      (grew : ∀ invocation ∈ invocations, invocation.Grows) (fewer : invocations.length < left)
      (refused : mid.swept.sampled.startGuard limit = (.error panic, after)) :
      Concludes left deltas invocations mid (.error (.panicked panic)) after
  | stopped (earlier : List (Invocation Q ν σ)) {last : Invocation Q ν σ} {mid : World Q ν σ} {stop : Stop Failure}
      (grew : ∀ invocation ∈ earlier, invocation.Grows) (fewer : earlier.length < left)
      (stops : last.outcome = .error stop) : Concludes left deltas (earlier ++ [last]) mid (.error stop) mid
  | overflowed (earlier : List (Invocation Q ν σ)) {last : Invocation Q ν σ} {mid : World Q ν σ}
      (grew : ∀ invocation ∈ earlier, invocation.Grows) (fewer : earlier.length < left)
      (passed : last.outcome = .ok ()) (overflows : ¬ last.Fits) :
      Concludes left deltas (earlier ++ [last]) mid (.error (.panicked .differenceOverflow)) mid
  | settled (earlier : List (Invocation Q ν σ)) {last : Invocation Q ν σ} {mid : World Q ν σ}
      (grew : ∀ invocation ∈ earlier, invocation.Grows) (fewer : earlier.length < left)
      (passed : last.outcome = .ok ()) (same : last.change = 0) :
      Concludes left deltas (earlier ++ [last]) mid
        (.ok (deltas ++ (earlier ++ [last]).map Invocation.change)) mid

/-- What comes of the iterations of a leak check. -/
inductive Checks (left : Nat) (deltas : List Int) (world : World Q ν σ) :
    Option (Except (Stop Failure) (List Int) × World Q ν σ) → Prop where
  | stuck {grown : List (Invocation Q ν σ)} {mid : World Q ν σ} (follows : Follows turns limit test fixture world grown mid)
      (grew : ∀ invocation ∈ grown, invocation.Grows) (fewer : grown.length < left)
      (stalls : Stalls turns limit test fixture mid.swept.sampled) : Checks left deltas world none
  | done {invocations : List (Invocation Q ν σ)} {mid after : World Q ν σ} {result : Except (Stop Failure) (List Int)}
      (follows : Follows turns limit test fixture world invocations mid)
      (concludes : Concludes limit left deltas invocations mid result after) :
      Checks left deltas world (some (result, after))

end

/-- The fixture never panics when it cleans up. -/
def Cleans (Q : Type 1) [TimerQueue (Action ν σ) Q] (turns : Nat) (fixture : Fixture ν σ) : Prop :=
  ∀ (world : World Q ν σ) answer after, fixture.cleanup.run turns world = some (answer, after) → answer = .ok ()

/-! The programs of the time guard and of one iteration, taken apart. -/

section

variable (turns : Nat) (limit : Option Nat) (test : TestBody ν σ) (fixture : Fixture ν σ)

theorem run_during {α ε : Type} (timeout : Timeout) (task : Task ν σ ε α) (world : World Q ν σ) :
    (timeout.during task).run.run turns world =
      match world.startTimeout timeout with
      | (.error panic, after) => some (.error (.panicked panic), after)
      | (.ok (), begun) => (task.run.run turns begun).map fun (outcome, ended) =>
          (outcome, (ended.cancelTimeout timeout).2) := by
  simp only [Timeout.during, Task.run_bind, Task.run_orPanic, Task.run_andThen, Program.run_bind, Program.run_ask,
    Program.run_pure, Run.answer, Option.map_some, Option.bind_some]
  rcases world.startTimeout timeout with ⟨panic | ⟨⟩, begun⟩
  · rfl
  · change (task.run.run turns begun).bind _ = (task.run.run turns begun).map _
    cases task.run.run turns begun <;> rfl

theorem run_guardTime (world : World Q ν σ) : (guardTime limit test fixture).run.run turns world =
    match world.startGuard limit with
    | (.error panic, after) => some (.error (.panicked panic), after)
    | (.ok (), begun) => ((test fixture).run.run turns begun).map fun (outcome, ended) =>
        (outcome, ended.endLimit (limit.map world.guardOf)) := by
  cases limit with
  | none =>
    simp only [guardTime, World.startGuard, Option.map_none, World.endLimit]
    cases (test fixture).run.run turns world <;> rfl
  | some limit =>
    simp only [guardTime, Task.ask, Task.run_bind, Task.run_lift, Program.run_ask, Run.answer, Option.map_some,
      Option.bind_some, run_during]
    rfl

/-- The program of one iteration. -/
def runOnce (test : TestBody ν σ) (fixture : Fixture ν σ) : Task ν σ Failure Unit := do
  match ← (test fixture).outcome with
  | .error (.panicked panic) => .panic panic
  | outcome =>
    Task.orPanic fixture.cleanup
    .resume outcome

theorem checkLeaks_eq : checkLeaks test fixture = (do
    if ← Task.ask (.hub .hasProbe) then
      let _ ← ExceptT.mk (LeakCheck.session .hub LeakCheck.defaultLimit (runOnce test fixture).run)
    else
      test fixture) := rfl

theorem run_runOnce (world : World Q ν σ) : (runOnce test fixture).run.run turns world =
    ((test fixture).run.run turns world).bind fun
      | (.error (.panicked panic), ended) => some (.error (.panicked panic), ended)
      | (outcome, ended) => (fixture.cleanup.run turns ended).map fun
        | (.error panic, after) => (.error (.panicked panic), after)
        | (.ok (), after) => (outcome, after) := by
  simp only [runOnce, Task.run_bind, Task.run_outcome]
  rcases (test fixture).run.run turns world with _ | ⟨(failure | panic) | _, ended⟩
  · rfl
  · simp only [Option.map_some, Option.bind_some, Task.run_bind, Task.run_orPanic]
    rcases fixture.cleanup.run turns ended with _ | ⟨_ | _, after⟩ <;> rfl
  · rfl
  · simp only [Option.map_some, Option.bind_some, Task.run_bind, Task.run_orPanic]
    rcases fixture.cleanup.run turns ended with _ | ⟨_ | _, after⟩ <;> rfl

end

section

variable {turns : Nat} {limit : Option Nat} {test : TestBody ν σ} {fixture : Fixture ν σ}

theorem iterated_returned (cleans : Cleans Q turns fixture) {invocation : Invocation Q ν σ}
    (invokes : Invokes turns limit test fixture invocation)
    (returned : ∀ panic, invocation.outcome ≠ .error (.panicked panic)) :
    Iterated turns limit test fixture invocation.before
      ((fixture.cleanup.run turns (invocation.left limit)).map fun
        | (.error panic, after) => (.error (.panicked panic), after)
        | (.ok (), after) => (invocation.outcome, after)) := by
  rcases cleaned : fixture.cleanup.run turns (invocation.left limit) with _ | ⟨answer, after⟩
  · exact .stuck (.cleanup rfl invokes returned cleaned)
  · obtain rfl := cleans _ answer after cleaned
    have cleansUp : CleansUp turns limit fixture { invocation with after } := by
      unfold CleansUp
      split
      next panic isPanic => exact absurd isPanic (returned panic)
      next => exact cleaned
    exact .invoked { invocation with after } rfl ⟨invokes.armed, invokes.ran⟩ cleansUp

theorem run_invocation (limit : Option Nat) (test : TestBody ν σ) (cleans : Cleans Q turns fixture) (before : World Q ν σ) :
    Iterated turns limit test fixture before ((runOnce (guardTime limit test) fixture).run.run turns before) := by
  rw [run_runOnce, run_guardTime]
  rcases start : before.startGuard limit with ⟨panic | ⟨⟩, begun⟩
  · exact .unarmed start
  simp only
  rcases ran : (test fixture).run.run turns begun with _ | ⟨outcome, ended⟩
  · exact .stuck (.body start ran)
  simp only [Option.map_some, Option.bind_some]
  let left := ended.endLimit (limit.map before.guardOf)
  have invokes : Invokes turns limit test fixture ⟨before, begun, outcome, ended, left⟩ := ⟨start, ran⟩
  rcases outcome with (failure | panic) | ⟨⟩
  · exact iterated_returned cleans invokes nofun
  · exact .invoked ⟨before, begun, .error (.panicked panic), ended, left⟩ rfl invokes rfl
  · exact iterated_returned cleans invokes nofun

theorem Concludes.cons {left : Nat} {deltas : List Int} {first : Invocation Q ν σ} {rest : List (Invocation Q ν σ)}
    {mid after : World Q ν σ} {result : Except (Stop Failure) (List Int)} (grows : first.Grows)
    (concludes : Concludes limit left (deltas ++ [first.change]) rest mid result after) :
    Concludes limit (left + 1) deltas (first :: rest) mid result after := by
  have grown {others : List (Invocation Q ν σ)} (grew : ∀ invocation ∈ others, invocation.Grows) :
      ∀ invocation ∈ first :: others, invocation.Grows := List.forall_mem_cons.mpr ⟨grows, grew⟩
  cases concludes with
  | exhausted grew all =>
    rw [List.append_assoc]
    exact .exhausted (grown grew) (congrArg (· + 1) all)
  | unarmed grew fewer refused => exact .unarmed (grown grew) (Nat.succ_lt_succ fewer) refused
  | stopped earlier grew fewer stops =>
    exact .stopped (first :: earlier) (grown grew) (Nat.succ_lt_succ fewer) stops
  | overflowed earlier grew fewer passed overflows =>
    exact .overflowed (first :: earlier) (grown grew) (Nat.succ_lt_succ fewer) passed overflows
  | settled earlier grew fewer passed same =>
    rw [List.append_assoc]
    exact .settled (first :: earlier) (grown grew) (Nat.succ_lt_succ fewer) passed same

theorem Checks.cons {left : Nat} {deltas : List Int} {world : World Q ν σ} {first : Invocation Q ν σ}
    {ran : Option (Except (Stop Failure) (List Int) × World Q ν σ)}
    (iterates : Iterates turns limit test fixture world first) (grows : first.Grows)
    (checks : Checks turns limit test fixture left (deltas ++ [first.change]) first.next ran) :
    Checks turns limit test fixture (left + 1) deltas world ran := by
  cases checks with
  | stuck follows grew fewer stalls =>
    exact .stuck (.more iterates follows) (List.forall_mem_cons.mpr ⟨grows, grew⟩) (Nat.succ_lt_succ fewer) stalls
  | done follows concludes => exact .done (.more iterates follows) (concludes.cons grows)

/-- One iteration, and what follows it. -/
theorem iterate_succ (body : Program ν σ (Except (Stop Failure) Unit)) (left : Nat) (deltas : List Int)
    (world : World Q ν σ) : (LeakCheck.iterate .hub body (left + 1) deltas).run turns world =
      (body.run turns world.swept.sampled).bind fun
        | (.error stop, after) => some (.error stop, after)
        | (.ok _, after) =>
          match LeakCheck.delta? world.swept.sampled.liveHandles after.liveHandles with
          | none => some (.error (.panicked .differenceOverflow), after.sampled)
          | some delta =>
            if delta = 0 then some (.ok (deltas ++ [delta]), after.sampled)
            else (LeakCheck.iterate .hub body left (deltas ++ [delta])).run turns after.sampled := by
  simp only [LeakCheck.iterate, Program.run_bind]
  change (body.run turns world.swept.sampled).bind _ = _
  congr 1
  funext answered
  obtain ⟨stop | ⟨⟩, after⟩ := answered
  · rfl
  have counted : (ResourceProbe.hub.liveHandles : Program ν σ Int).run turns after =
      some (after.liveHandles, after.sampled) := rfl
  have same : (world.setQueue (TimerQueue.collect world.hub.queue)).liveHandles = world.swept.sampled.liveHandles := rfl
  simp only [Program.run_bind, counted, Option.bind_some, same]
  cases LeakCheck.delta? world.swept.sampled.liveHandles after.liveHandles with
  | none => rfl
  | some delta =>
    simp only
    split <;> rfl

theorem delta_of_fits {invocation : Invocation Q ν σ} (fits : invocation.Fits) :
    LeakCheck.delta? invocation.before.liveHandles invocation.after.liveHandles = some invocation.change := if_pos fits

theorem delta_of_overflow {invocation : Invocation Q ν σ} (overflows : ¬ invocation.Fits) :
    LeakCheck.delta? invocation.before.liveHandles invocation.after.liveHandles = none := if_neg overflows

theorem run_iterate (limit : Option Nat) (test : TestBody ν σ) (cleans : Cleans Q turns fixture) (left : Nat)
    (deltas : List Int) (world : World Q ν σ) :
    Checks turns limit test fixture left deltas world
      ((LeakCheck.iterate .hub (runOnce (guardTime limit test) fixture).run left deltas).run turns world) := by
  have nothing : ∀ invocation ∈ ([] : List (Invocation Q ν σ)), invocation.Grows :=
    fun _ member => absurd member List.not_mem_nil
  -- The deltas seen so far grow with every iteration, and only the first one can be the last.
  induction left generalizing deltas world with
  | zero =>
    have exhausted : Concludes limit 0 deltas [] world (.error (.failed (.growth (deltas ++ [])))) world :=
      .exhausted nothing rfl
    rw [List.append_nil] at exhausted
    exact .done .none exhausted
  | succ left ih =>
    have within : 0 < left + 1 := Nat.succ_pos left
    have iterated := run_invocation limit test cleans world.swept.sampled
    rw [iterate_succ]
    generalize (runOnce (guardTime limit test) fixture).run.run turns world.swept.sampled = ran at iterated ⊢
    cases iterated with
    | stuck stalls => exact .stuck .none nothing within stalls
    | unarmed refused => exact .done .none (.unarmed nothing within refused)
    | invoked invocation here invokes cleaned =>
      have iterates : Iterates turns limit test fixture world invocation := ⟨invokes, here, cleaned⟩
      simp only [Option.bind_some, ← here]
      rcases outcome : invocation.outcome with stop | passed
      · have next : invocation.next = invocation.after := by simp only [Invocation.next, outcome]
        rw [← next]
        exact .done (.more iterates .none) (.stopped [] nothing within outcome)
      have next : invocation.next = invocation.after.sampled := by simp only [Invocation.next, outcome]
      simp only [← next]
      by_cases fits : invocation.Fits
      · rw [delta_of_fits fits]
        simp only
        split
        next same => exact .done (.more iterates .none) (.settled [] nothing within outcome same)
        next changed => exact .cons iterates ⟨outcome, fits, changed⟩ (ih (deltas ++ [invocation.change]) invocation.next)
      · rw [delta_of_overflow fits]
        exact .done (.more iterates .none) (.overflowed [] nothing within outcome fits)

theorem run_session (body : Program ν σ (Except (Stop Failure) Unit)) (world : World Q ν σ) :
    (LeakCheck.session .hub LeakCheck.defaultLimit body).run turns world =
      ((LeakCheck.iterate .hub body LeakCheck.defaultLimit []).run turns (world.setReclaim false).swept).map
        fun (result, last) => (result, (last.setReclaim true).swept) := by
  have room : LeakCheck.defaultLimit ≤ LeakCheck.largestLimit := by decide
  simp only [LeakCheck.session, if_pos room, LeakCheck.supervise, Program.run_bind]
  change ((LeakCheck.iterate .hub body LeakCheck.defaultLimit []).run turns (world.setReclaim false).swept).bind _ = _
  cases (LeakCheck.iterate .hub body LeakCheck.defaultLimit []).run turns (world.setReclaim false).swept <;> rfl

theorem run_checkLeaks (world : World Q ν σ) : (checkLeaks test fixture).run.run turns world =
    if world.hasProbe then
      ((LeakCheck.session .hub LeakCheck.defaultLimit (runOnce test fixture).run).run turns world).map
        fun (result, after) => (result.map fun _ => (), after)
    else (test fixture).run.run turns world := by
  rw [checkLeaks_eq]
  simp only [Task.ask, Task.run_bind, Task.run_lift, Program.run_ask, Run.answer, World.onHub, Option.map_some,
    Option.bind_some]
  split
  · rename_i probed
    simp only [Task.run_bind]
    change ((LeakCheck.session .hub LeakCheck.defaultLimit (runOnce test fixture).run).run turns world).bind _ = _
    rcases (LeakCheck.session .hub LeakCheck.defaultLimit (runOnce test fixture).run).run turns world with
      _ | ⟨_ | _, after⟩ <;> rfl
  · rfl

end

/-! The whole of an instrumented test. -/

section

variable (turns : Nat) (policy : Policy) (test : TestBody ν σ) (fixture : Fixture ν σ)

/-- Leaks are checked where the policy says so and the hub reports its live handles. -/
def Policy.checks (policy : Policy) (world : World Q ν σ) : Bool := policy.leakCheck && world.hasProbe

/-- An instrumented test finishes: the invocations of its body, its outcome, and the world it leaves. -/
inductive Instruments (world : World Q ν σ) :
    List (Invocation Q ν σ) → Except (Stop Failure) Unit → World Q ν σ → Prop where
  | once {invocation : Invocation Q ν σ} (unchecked : policy.checks world = false) (here : invocation.before = world)
      (invokes : Invokes turns policy.timeout test fixture invocation)
      (disarmed : invocation.after = invocation.left policy.timeout) :
      Instruments world [invocation] invocation.outcome invocation.after
  | refused {panic : Panic} {after : World Q ν σ} (unchecked : policy.checks world = false)
      (refused : world.startGuard policy.timeout = (.error panic, after)) :
      Instruments world [] (.error (.panicked panic)) after
  | checked {invocations : List (Invocation Q ν σ)} {mid last : World Q ν σ} {result : Except (Stop Failure) (List Int)}
      (checks : policy.checks world = true)
      (follows : Follows turns policy.timeout test fixture (world.setReclaim false).swept invocations mid)
      (concludes : Concludes policy.timeout LeakCheck.defaultLimit [] invocations mid result last) :
      Instruments world invocations (result.map fun _ => ()) (last.setReclaim true).swept

/-- An instrumented test does not finish: some invocation of its body does not, or cleaning up after it. -/
inductive Hangs (world : World Q ν σ) : Prop where
  | once {begun : World Q ν σ} (unchecked : policy.checks world = false)
      (armed : world.startGuard policy.timeout = (.ok (), begun)) (stuck : (test fixture).run.run turns begun = none)
  | checked {grown : List (Invocation Q ν σ)} {mid : World Q ν σ} (checks : policy.checks world = true)
      (follows : Follows turns policy.timeout test fixture (world.setReclaim false).swept grown mid)
      (grew : ∀ invocation ∈ grown, invocation.Grows) (fewer : grown.length < LeakCheck.defaultLimit)
      (stalls : Stalls turns policy.timeout test fixture mid.swept.sampled)

/-- What comes of an instrumented test. -/
def Instrumented (world : World Q ν σ) (ran : Option (Except (Stop Failure) Unit × World Q ν σ)) : Prop :=
  ran.elim (Hangs turns policy test fixture world) fun (result, after) =>
    ∃ invocations, Instruments turns policy test fixture world invocations result after

end

section

variable {turns : Nat} {policy : Policy} {test : TestBody ν σ} {fixture : Fixture ν σ}

theorem instrumented_once {world : World Q ν σ} (unchecked : policy.checks world = false) :
    Instrumented turns policy test fixture world ((guardTime policy.timeout test fixture).run.run turns world) := by
  rw [run_guardTime]
  rcases start : world.startGuard policy.timeout with ⟨panic | _, begun⟩
  · exact ⟨[], .refused unchecked start⟩
  simp only
  rcases ran : (test fixture).run.run turns begun with _ | ⟨outcome, ended⟩
  · exact Hangs.once unchecked start ran
  · let invocation : Invocation Q ν σ :=
      ⟨world, begun, outcome, ended, ended.endLimit (policy.timeout.map world.guardOf)⟩
    exact ⟨[invocation], .once unchecked rfl ⟨start, ran⟩ rfl⟩

theorem run_instrument (policy : Policy) (test : TestBody ν σ) (cleans : Cleans Q turns fixture) (world : World Q ν σ) :
    Instrumented turns policy test fixture world ((instrument policy test fixture).run.run turns world) := by
  unfold instrument
  cases checking : policy.leakCheck with
  | false =>
    have unchecked : policy.checks world = false := by simp only [Policy.checks, checking, Bool.false_and]
    exact instrumented_once unchecked
  | true =>
    simp only [if_true, run_checkLeaks]
    split
    next probed =>
      have checks : policy.checks world = true := by simp only [Policy.checks, checking, probed, Bool.true_and]
      have checked := run_iterate policy.timeout test cleans LeakCheck.defaultLimit []
        (world.setReclaim false).swept
      rw [run_session]
      generalize (LeakCheck.iterate .hub (runOnce (guardTime policy.timeout test) fixture).run LeakCheck.defaultLimit
        []).run turns (world.setReclaim false).swept = ran at checked ⊢
      cases checked with
      | stuck follows grew fewer stalls => exact Hangs.checked checks follows grew fewer stalls
      | done follows concludes => exact ⟨_, .checked checks follows concludes⟩
    next unprobed =>
      have unchecked : policy.checks world = false := by
        simp only [Policy.checks, Bool.eq_false_iff.mpr unprobed, Bool.and_false]
      exact instrumented_once unchecked

end

/-! The rule a leak check follows, told from the outcomes and the changes alone. -/

/-- Why an invocation is the last one, and what comes of the test. -/
inductive Decides (limit : Nat) (invocations : List (Invocation Q ν σ)) (last : Invocation Q ν σ) :
    Except (Stop Failure) Unit → Prop where
  | stopped {stop : Stop Failure} (stops : last.outcome = .error stop) : Decides limit invocations last (.error stop)
  | settled (passed : last.outcome = .ok ()) (same : last.change = 0) : Decides limit invocations last (.ok ())
  | exhausted (passed : last.outcome = .ok ()) (changed : last.change ≠ 0) (all : invocations.length = limit) :
      Decides limit invocations last (.error (.failed (.growth (invocations.map Invocation.change))))
  /-- No signed word of 64 bits can say by how much the live handles have changed. -/
  | overflowed (passed : last.outcome = .ok ()) (overflows : ¬ last.Fits) :
      Decides limit invocations last (.error (.panicked .differenceOverflow))

/-- The body is invoked again only after an invocation that succeeded and changed the live handles. -/
structure Decided (limit : Nat) (invocations : List (Invocation Q ν σ)) (result : Except (Stop Failure) Unit) : Prop where
  count : 1 ≤ invocations.length ∧ invocations.length ≤ limit
  grew : ∀ invocation ∈ invocations.dropLast, invocation.Grows
  decided : ∃ last ∈ invocations.getLast?, Decides limit invocations last result

/-- The guards of all invocations can be armed. -/
theorem Concludes.decided {limit : Option Nat} {left : Nat} {invocations : List (Invocation Q ν σ)}
    {mid after : World Q ν σ} {result : Except (Stop Failure) (List Int)}
    (concludes : Concludes limit left [] invocations mid result after) (some : 0 < left)
    (arms : ∀ panic, mid.swept.sampled.startGuard limit ≠ (.error panic, after)) :
    Decided left invocations (result.map fun _ => ()) := by
  have concluded {earlier : List (Invocation Q ν σ)} {last : Invocation Q ν σ} {result : Except (Stop Failure) Unit}
      (grew : ∀ invocation ∈ earlier, invocation.Grows) (fewer : earlier.length < left)
      (decides : Decides left (earlier ++ [last]) last result) : Decided left (earlier ++ [last]) result := by
    refine ⟨?_, by rwa [List.dropLast_concat], last, List.getLast?_concat, decides⟩
    rw [List.length_append, List.length_singleton]
    omega
  cases concludes with
  | exhausted grew all =>
    obtain rfl | ⟨earlier, last, rfl⟩ := invocations.eq_nil_or_concat
    · exact absurd all.symm (Nat.ne_of_gt some)
    · rw [List.concat_eq_append] at grew all ⊢
      obtain ⟨grew, grows⟩ := List.forall_mem_append.mp grew
      have lastGrows := grows last (List.mem_singleton_self last)
      rw [List.length_append, List.length_singleton] at all
      apply concluded grew (by omega)
      apply Decides.exhausted lastGrows.passed lastGrows.changed
      rwa [List.length_append, List.length_singleton]
  | unarmed _ _ refused => exact absurd refused (arms _)
  | stopped earlier grew fewer stops => exact concluded grew fewer (.stopped stops)
  | overflowed earlier grew fewer passed overflows => exact concluded grew fewer (.overflowed passed overflows)
  | settled earlier grew fewer passed same => exact concluded grew fewer (.settled passed same)

end Testbench
