import Testbench.Harness
import Testbench.Proofs.InstrumentedRuns
import Testbench.Proofs.Leeway

/-! Programs that the count of switches does not sway. They may read it, keep it and hand it on, but whatever they read,
they ask the bench for the same. Tests under a guard, tests that are checked for leaks and tests that the harness runs are
such programs if their parts are. -/

namespace Testbench

variable {ν σ : Type}

/-! What is put together from programs that the count does not sway is not swayed by it. -/

namespace Program.Unswayed

variable {leeway : Leeway ν σ} {α β : Type} {R S : α → α → Prop} {T : β → β → Prop}

theorem bind {program other : Program ν σ α} {next next' : α → Program ν σ β} (first : program.Unswayed leeway S other)
    (rest : ∀ value value', S value value' → (next value).Unswayed leeway T (next' value')) :
    (program.bind next).Unswayed leeway T (other.bind next') := by
  induction first with
  | pure related => exact rest _ _ related
  | request matched _ ih => exact .request matched fun reply reply' related => ih reply reply' related rest
  | call after label called _ _ ih => exact .call after label called fun reply => ih reply rest

theorem ask {asked asked' : Request ν σ α} (matched : asked.Matched leeway S asked') :
    (Program.ask asked).Unswayed leeway S (Program.ask asked') :=
  .request matched fun _ _ => .pure

theorem bind_eq {program other : Program ν σ α} {next next' : α → Program ν σ β} (first : program.Unswayed leeway Eq other)
    (rest : ∀ value, (next value).Unswayed leeway T (next' value)) :
    (program.bind next).Unswayed leeway T (other.bind next') :=
  first.bind fun value _ same => same ▸ rest value

/-- The request and its answer have nothing to do with the count. -/
theorem asking {asked : Request ν σ α} {next next' : α → Program ν σ β} (plain : asked.ofCount = false)
    (rest : ∀ reply, (next reply).Unswayed leeway T (next' reply)) :
    ((Program.ask asked).bind next).Unswayed leeway T ((Program.ask asked).bind next') :=
  bind_eq (.ask (.plain plain)) rest

end Program.Unswayed

theorem Program.Asks.unswayed {leeway : Leeway ν σ} {α : Type} {program : Program ν σ α}
    (asks : program.Asks fun asked => asked.ofCount = false) : program.Unswayed leeway Eq program := by
  induction program with
  | pure value => exact .pure rfl
  | request asked next ih => exact .request (.plain asks.1) fun reply _ same => same ▸ ih reply (asks.2 reply)
  | call after label callback next called ih =>
    exact .call after label (called asks.1) fun reply => ih reply (asks.2 reply)

/-! Any program can be kept from reading the count. -/

/-- The first run reads any count and the second reads none, but nothing comes of it. -/
def Leeway.unread : Leeway ν σ := ⟨fun _ count => count = none, Eq, Eq⟩

/-- The reply without a count in it. -/
def Request.masked {α : Type} : Request ν σ α → α → α
  | .hub .switchCount, _ => none
  | .readCase _, case => { case with countAtSetUp := none }
  | _, reply => reply

/-- The program when the count is kept from it, and from the callbacks it arms. -/
def Program.masked {α : Type} : Program ν σ α → Program ν σ α
  | .pure value => .pure value
  | .request asked next => .request asked fun reply => (next (asked.masked reply)).masked
  | .call after label callback next => .call after label callback.masked fun reply => (next reply).masked

theorem Request.matched_masked {α : Type} (asked : Request ν σ α) :
    ∃ S, asked.Matched .unread S asked ∧ ∀ reply reply', S reply reply' → asked.masked reply = reply' := by
  cases asked with
  | readCase case =>
    refine ⟨_, .readCase case, fun state state' same => ?_⟩
    obtain ⟨id, policy, countAtSetUp, switchExpected, capture⟩ := state'
    obtain ⟨rfl, rfl, rfl, rfl, rfl⟩ := same
    rfl
  | complete result value => exact ⟨_, .complete result (.of_eq rfl), fun _ _ => id⟩
  | readResult result => exact ⟨_, .readResult result, fun _ _ => SameResult.eq⟩
  | get result limit => exact ⟨_, .get result limit, fun _ _ => Handed.eq⟩
  | «recall» => exact ⟨_, .memory, fun _ _ => id⟩
  | store memory => exact ⟨_, .store rfl, fun _ _ => id⟩
  | hub request =>
    cases request with
    | switchCount => exact ⟨_, .switchCount, fun _ _ => Eq.symm⟩
    | _ => exact ⟨Eq, .plain rfl, fun _ _ => id⟩
  | _ => exact ⟨Eq, .plain rfl, fun _ _ => id⟩

theorem Program.masked_unswayed {α : Type} (program : Program ν σ α) : program.masked.Unswayed .unread Eq program := by
  induction program with
  | pure value => exact .pure rfl
  | request asked next ih =>
    obtain ⟨S, matched, masks⟩ := asked.matched_masked
    exact .request matched fun reply reply' same => masks reply reply' same ▸ ih _
  | call after label callback next called ih => exact .call after label called ih

namespace Task

variable {leeway : Leeway ν σ} {ε α β : Type}

/-- The tasks end in the same way, or with related values. -/
abbrev Unswayed (leeway : Leeway ν σ) (R : α → α → Prop) (task other : Task ν σ ε α) : Prop :=
  task.run.Unswayed leeway (Handed R) other.run

namespace Unswayed

variable {R : α → α → Prop} {S : β → β → Prop} {task other : Task ν σ ε α}

theorem bind {next next' : α → Task ν σ ε β} (first : task.Unswayed leeway R other)
    (rest : ∀ value value', R value value' → (next value).Unswayed leeway S (next' value')) :
    (task >>= next).Unswayed leeway S (other >>= next') := by
  refine Program.Unswayed.bind first fun outcome outcome' handed => ?_
  cases handed with
  | ok related => exact rest _ _ related
  | error stop => exact Program.Unswayed.pure (.error stop)

theorem pure {value value' : α} (related : R value value') :
    Unswayed leeway R (Pure.pure value : Task ν σ ε α) (Pure.pure value') :=
  Program.Unswayed.pure (.ok related)

theorem same (unswayed : task.Unswayed leeway Eq other) : task.run.Unswayed leeway Eq other.run :=
  unswayed.mono fun _ _ => Handed.eq

theorem of_same (unswayed : task.run.Unswayed leeway Eq other.run) : task.Unswayed leeway Eq other :=
  unswayed.mono fun _ _ => Handed.of_eq

theorem bind_eq {next next' : α → Task ν σ ε β} (first : task.Unswayed leeway Eq other)
    (rest : ∀ value, (next value).Unswayed leeway S (next' value)) :
    (task >>= next).Unswayed leeway S (other >>= next') :=
  first.bind fun value _ same => same ▸ rest value

theorem lift {program program' : Program ν σ α} (unswayed : program.Unswayed leeway R program') :
    Unswayed leeway R (ExceptT.lift program : Task ν σ ε α) (ExceptT.lift program') :=
  Program.Unswayed.bind unswayed fun _ _ related => Program.Unswayed.pure (.ok related)

theorem ask {asked : Request ν σ α} (other : asked.ofCount = false) :
    Unswayed leeway Eq (Task.ask asked : Task ν σ ε α) (Task.ask asked) :=
  lift (.ask (.plain other))

theorem orPanic {program program' : Program ν σ (Except Panic α)} (unswayed : program.Unswayed leeway Eq program') :
    Unswayed leeway Eq (Task.orPanic program : Task ν σ ε α) (Task.orPanic program') :=
  Program.Unswayed.bind_eq unswayed fun _ => Program.Unswayed.pure (.of_eq rfl)

theorem outcome {ε' : Type} (unswayed : task.Unswayed leeway Eq other) :
    Unswayed leeway Eq (task.outcome : Task ν σ ε' _) other.outcome :=
  lift unswayed.same

theorem andThen {last last' : Program ν σ Unit} (unswayed : task.Unswayed leeway R other)
    (ends : last.Unswayed leeway Eq last') : (task.andThen last).Unswayed leeway R (other.andThen last') :=
  Program.Unswayed.bind unswayed fun _ _ handed => Program.Unswayed.bind_eq ends fun _ => Program.Unswayed.pure handed

theorem during (timeout : Timeout) (unswayed : task.Unswayed leeway R other) :
    (timeout.during task).Unswayed leeway R (timeout.during other) :=
  bind_eq (orPanic (.ask (.plain rfl))) fun _ => unswayed.andThen (Program.Unswayed.asking rfl fun _ => .pure rfl)

end Unswayed

end Task

/-! Tests under a guard, tests that are checked for leaks, and tests that the harness runs. -/

section

variable {leeway : Leeway ν σ} {test other : TestBody ν σ} {fixture fixture' : Fixture ν σ}

theorem guardTime_unswayed (limit : Option Nat) (body : (test fixture).Unswayed leeway Eq (other fixture')) :
    (guardTime limit test fixture).Unswayed leeway Eq (guardTime limit other fixture') := by
  cases limit with
  | none => exact body
  | some limit => exact Task.Unswayed.bind_eq (.ask rfl) fun timeout => body.during _

theorem LeakCheck.iterate_unswayed {body body' : Program ν σ (Except (Stop Failure) Unit)}
    (unswayed : body.Unswayed leeway Eq body') (runs : Nat) (deltas : List Int) :
    (iterate .hub body runs deltas).Unswayed leeway Eq (iterate .hub body' runs deltas) := by
  induction runs generalizing deltas with
  | zero => exact .pure rfl
  | succ runs ih =>
    refine Program.Unswayed.asking rfl fun _ => ?_
    refine Program.Unswayed.asking rfl fun before => ?_
    refine Program.Unswayed.bind_eq unswayed fun outcome => ?_
    cases outcome with
    | error stop => exact .pure rfl
    | ok =>
      refine Program.Unswayed.asking rfl fun after => ?_
      dsimp only
      split
      · exact .pure rfl
      · split
        · exact .pure rfl
        · exact ih _

theorem LeakCheck.session_unswayed {body body' : Program ν σ (Except (Stop Failure) Unit)}
    (unswayed : body.Unswayed leeway Eq body') (limit : Nat) :
    (session .hub limit body).Unswayed leeway Eq (session .hub limit body') := by
  unfold session
  split
  · refine Program.Unswayed.asking rfl fun _ => ?_
    refine Program.Unswayed.asking rfl fun _ => ?_
    refine Program.Unswayed.bind_eq (iterate_unswayed unswayed limit []) fun outcome => ?_
    refine Program.Unswayed.asking rfl fun _ => ?_
    exact Program.Unswayed.asking rfl fun _ => .pure rfl
  · exact .pure rfl

theorem runOnce_unswayed (body : (test fixture).Unswayed leeway Eq (other fixture'))
    (cleanup : fixture.cleanup.Unswayed leeway Eq fixture'.cleanup) :
    (runOnce test fixture).Unswayed leeway Eq (runOnce other fixture') := by
  refine Task.Unswayed.bind_eq body.outcome fun outcome => ?_
  rcases outcome with (failure | panic) | _
  · exact Task.Unswayed.bind_eq (.orPanic cleanup) fun _ => Program.Unswayed.pure (.of_eq rfl)
  · exact Program.Unswayed.pure (.of_eq rfl)
  · exact Task.Unswayed.bind_eq (.orPanic cleanup) fun _ => Program.Unswayed.pure (.of_eq rfl)

theorem checkLeaks_unswayed (body : (test fixture).Unswayed leeway Eq (other fixture'))
    (cleanup : fixture.cleanup.Unswayed leeway Eq fixture'.cleanup) :
    (checkLeaks test fixture).Unswayed leeway Eq (checkLeaks other fixture') := by
  rw [checkLeaks_eq, checkLeaks_eq]
  refine Task.Unswayed.bind_eq (.ask rfl) fun probed => ?_
  cases probed with
  | false => exact body
  | true =>
    have session := LeakCheck.session_unswayed (runOnce_unswayed body cleanup).same LeakCheck.defaultLimit
    exact Task.Unswayed.bind_eq (.of_same session) fun _ => .pure rfl

theorem instrument_unswayed (policy : Policy) (body : (test fixture).Unswayed leeway Eq (other fixture'))
    (cleanup : fixture.cleanup.Unswayed leeway Eq fixture'.cleanup) :
    (instrument policy test fixture).Unswayed leeway Eq (instrument policy other fixture') := by
  unfold instrument
  split
  · exact checkLeaks_unswayed (guardTime_unswayed policy.timeout body) cleanup
  · exact guardTime_unswayed policy.timeout body

end

section

variable {leeway : Leeway ν σ}

structure Fixture.Unswayed (leeway : Leeway ν σ) (fixture : Fixture ν σ) : Prop where
  prepare : fixture.prepare.Unswayed leeway Eq fixture.prepare
  setUp : fixture.setUp.Unswayed leeway Eq fixture.setUp
  tearDown : fixture.tearDown.Unswayed leeway Eq fixture.tearDown
  cleanup : fixture.cleanup.Unswayed leeway Eq fixture.cleanup

/-- The records differ at most in the switches that were counted. -/
def SameRecord (record other : TestRecord) : Prop := { record with switches := none } = { other with switches := none }

theorem CaseId.resolve_unswayed (case : CaseId) (policy : SwitchPolicy) :
    (case.resolve policy : Program ν σ SwitchExpected).Unswayed leeway Eq (case.resolve policy) := by
  refine Program.Unswayed.bind (.ask (.readCase case)) fun state other same => ?_
  have expected : (state.resolve policy).switchExpected = (other.resolve policy).switchExpected := by
    unfold TestCase.resolve
    rw [same.switchExpected, same.id]
    split
    · rfl
    · exact same.switchExpected
  rw [expected]
  exact Program.Unswayed.asking rfl fun _ => .pure rfl

/-- What is done with the capture of a case. -/
theorem CaseId.capture_unswayed (case : CaseId) (last : CaptureId → Diagnostics.Request Unit) :
    (do let state ← case.read; .ask (.diagnostics (last state.capture)) : Program ν σ Unit).Unswayed leeway Eq
      (do let state ← case.read; .ask (.diagnostics (last state.capture))) := by
  refine Program.Unswayed.bind (.ask (.readCase case)) fun state other same => ?_
  rw [same.capture]
  exact .ask (.plain rfl)

namespace Harness

theorem perform_unswayed (harness : Harness) {test : RegisteredTest ν σ} {fixture : Fixture ν σ}
    (unswayed : fixture.Unswayed leeway) (body : (test.body fixture).Unswayed leeway Eq (test.body fixture)) :
    (harness.perform test fixture).Unswayed leeway Eq (harness.perform test fixture) := by
  refine Task.Unswayed.bind_eq (.lift (.ask (.plain rfl))) fun _ => ?_
  refine Task.Unswayed.bind_eq (.lift (fixture.case.resolve_unswayed harness.switchPolicy)) fun _ => ?_
  refine Task.Unswayed.bind_eq unswayed.setUp fun _ => ?_
  exact instrument_unswayed test.policy body unswayed.cleanup

theorem tearDown_unswayed {fixture : Fixture ν σ} (unswayed : fixture.Unswayed leeway) :
    (tearDown fixture).Unswayed leeway Eq (tearDown fixture) := by
  refine Task.Unswayed.bind_eq (.orPanic unswayed.cleanup) fun _ => ?_
  refine Task.Unswayed.bind_eq unswayed.tearDown.outcome fun outcome => ?_
  have released : Program.Unswayed leeway Eq fixture.case.tearDown fixture.case.tearDown :=
    fixture.case.capture_unswayed .replay
  rcases outcome with (failure | panic) | _
  · exact Task.Unswayed.bind_eq (.lift released) fun _ => Program.Unswayed.pure (.of_eq rfl)
  · exact Program.Unswayed.pure (.of_eq rfl)
  · exact Task.Unswayed.bind_eq (.lift released) fun _ => Program.Unswayed.pure (.of_eq rfl)

/-- All of a test that the count gets into is the number of switches in its record. -/
theorem execute_unswayed (harness : Harness) (suite : Suite ν σ) (test : RegisteredTest ν σ)
    (factory : CaseId → Fixture ν σ) (fixtures : ∀ case, (factory case).Unswayed leeway)
    (bodies : ∀ case, (test.body (factory case)).Unswayed leeway Eq (test.body (factory case))) :
    (harness.execute suite test factory).Unswayed leeway SameRecord (harness.execute suite test factory) := by
  have made : (harness.caseFor suite test).Unswayed leeway Eq (harness.caseFor suite test) :=
    Program.Unswayed.asking rfl fun _ => Program.Unswayed.asking rfl fun _ => .pure rfl
  refine Program.Unswayed.bind_eq made fun case => ?_
  refine Program.Unswayed.asking rfl fun start => ?_
  refine Program.Unswayed.bind_eq (fixtures case).prepare fun _ => ?_
  refine Program.Unswayed.bind_eq (perform_unswayed harness (fixtures case) (bodies case)).same fun outcome => ?_
  have counted (case : CaseId) : case.switches.Unswayed leeway (fun _ _ => True) case.switches :=
    Program.Unswayed.bind (.ask (.readCase case)) fun _ _ _ =>
      Program.Unswayed.bind (.ask .switchCount) fun _ _ _ => .pure trivial
  refine Program.Unswayed.bind (counted _) fun switches switches' _ => ?_
  refine Program.Unswayed.bind (.ask (.readCase _)) fun state other sameCase => ?_
  refine Program.Unswayed.bind_eq (tearDown_unswayed (fixtures case)).same fun tornDown => ?_
  refine Program.Unswayed.asking rfl fun stop => ?_
  refine Program.Unswayed.bind_eq ((factory case).case.capture_unswayed .drop) fun _ => ?_
  exact .pure (by rw [SameRecord, sameCase.switchExpected])

end Harness

end

end Testbench
