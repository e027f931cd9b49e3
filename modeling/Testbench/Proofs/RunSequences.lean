import Testbench.Run

/-! Runs of programs that are put together. The run of a whole is the runs of its parts one after the other, and it
does not finish if one of them does not. -/

namespace Testbench

variable {ν σ ε α β : Type} {Q : Type 1} [TimerQueue (Action ν σ) Q] (turns : Nat)

namespace Program

@[simp] theorem run_pure (value : α) (world : World Q ν σ) :
    (Pure.pure value : Program ν σ α).run turns world = some (value, world) := rfl

@[simp] theorem run_ask (asked : Request ν σ α) (world : World Q ν σ) :
    (Program.ask asked).run turns world = Run.answer turns (Run.switch turns) asked world := by
  unfold Program.run Program.ask
  simp only [Run.program]
  split
  next unanswered => exact unanswered.symm
  next answered => exact answered.symm

@[simp] theorem run_bind (program : Program ν σ α) (next : α → Program ν σ β) (world : World Q ν σ) :
    (program >>= next).run turns world =
      (program.run turns world).bind fun (value, mid) => (next value).run turns mid := by
  change Run.program turns (Run.switch turns) (program.bind next) world =
    (Run.program turns (Run.switch turns) program world).bind fun (value, mid) => (next value).run turns mid
  induction program generalizing world with
  | pure value => rfl
  | request asked rest ih =>
    simp only [Program.bind, Run.program]
    split
    · rfl
    · exact ih _ next _
  | call delay label callback rest _ ih =>
    simp only [Program.bind, Run.program]
    exact ih _ next _

end Program

namespace Task

@[simp] theorem run_bind (task : Task ν σ ε α) (next : α → Task ν σ ε β) (world : World Q ν σ) :
    (task >>= next).run.run turns world = (task.run.run turns world).bind fun
      | (.ok value, mid) => (next value).run.run turns mid
      | (.error stop, mid) => some (.error stop, mid) := by
  change (task.run >>= ExceptT.bindCont next).run turns world = _
  rw [Program.run_bind]
  congr 1
  funext answered
  obtain ⟨_ | _, mid⟩ := answered <;> rfl

@[simp] theorem run_lift (program : Program ν σ α) (world : World Q ν σ) :
    (ExceptT.lift program : Task ν σ ε α).run.run turns world =
      (program.run turns world).map fun (value, after) => (.ok value, after) := by
  change (program >>= fun value => pure (Except.ok value : Except (Stop ε) α)).run turns world = _
  rw [Program.run_bind]
  cases program.run turns world <;> rfl

@[simp] theorem run_ask (request : Request ν σ α) (world : World Q ν σ) :
    (Task.ask request : Task ν σ ε α).run.run turns world =
      (Run.answer turns (Run.switch turns) request world).map fun (answer, after) => (.ok answer, after) := by
  rw [Task.ask, run_lift, Program.run_ask]

@[simp] theorem run_attempt (request : Request ν σ (Except (Stop ε) α)) (world : World Q ν σ) :
    (Task.attempt request).run.run turns world = Run.answer turns (Run.switch turns) request world :=
  Program.run_ask turns request world

@[simp] theorem run_mapFailure {ε' : Type} (convert : ε → ε') (task : Task ν σ ε α) (world : World Q ν σ) :
    (task.mapFailure convert).run.run turns world = (task.run.run turns world).map fun (outcome, after) =>
      (outcome.mapError fun
        | .failed error => .failed (convert error)
        | .panicked panic => .panicked panic, after) := by
  change (task.run >>= fun outcome => pure (outcome.mapError fun
    | .failed error => Stop.failed (convert error)
    | .panicked panic => .panicked panic)).run turns world = _
  rw [Program.run_bind]
  cases task.run.run turns world <;> rfl

@[simp] theorem run_ofExcept (answer : Except ε α) (world : World Q ν σ) :
    (Task.ofExcept answer : Task ν σ ε α).run.run turns world = some (answer.mapError .failed, world) := rfl

@[simp] theorem run_orPanic (program : Program ν σ (Except Panic α)) (world : World Q ν σ) :
    (Task.orPanic program : Task ν σ ε α).run.run turns world =
      (program.run turns world).map fun (answer, after) => (answer.mapError .panicked, after) := by
  change (program >>= fun answer => pure (answer.mapError (Stop.panicked : Panic → Stop ε))).run turns world = _
  rw [Program.run_bind]
  cases program.run turns world <;> rfl

@[simp] theorem run_outcome {ε' : Type} (task : Task ν σ ε α) (world : World Q ν σ) :
    (task.outcome : Task ν σ ε' (Except (Stop ε) α)).run.run turns world =
      (task.run.run turns world).map fun (outcome, after) => (.ok outcome, after) :=
  run_lift turns task.run world

@[simp] theorem run_andThen (task : Task ν σ ε α) (last : Program ν σ Unit) (world : World Q ν σ) :
    (task.andThen last).run.run turns world = (task.run.run turns world).bind fun (outcome, mid) =>
      (last.run turns mid).map fun (_, after) => (outcome, after) := by
  change (task.run >>= fun outcome => last >>= fun _ => pure outcome).run turns world = _
  simp only [Program.run_bind]
  congr 1
  funext answered
  cases last.run turns answered.2 <;> rfl

end Task

end Testbench
