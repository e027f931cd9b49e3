import Testbench.Proofs.RunPassages

/-! What holds between the beginning and the end of every run, whatever is asked for in it. It is enough that it holds
of each thing that can happen: of every request that does not switch, and of what the hub does between two heads of its
loop. -/

namespace Testbench

variable {ν σ : Type} {Q : Type 1} [TimerQueue (Action ν σ) Q]

namespace World

omit [TimerQueue (Action ν σ) Q]

/-- Of the rest of the world only the wake can change. -/
theorem setEvent_eq (world : World Q ν σ) (id : EventId) :
    ∃ events woken, world.setEvent id = { world with events, hub := { world.hub with woken } } := by
  unfold World.setEvent
  dsimp only
  split
  · exact ⟨_, true, rfl⟩
  · exact ⟨_, world.hub.woken, rfl⟩

theorem complete_eq (world : World Q ν σ) (id : ResultId) (value : Except HubError ν) :
    ∃ results woken, world.complete id value = { world with results, hub := { world.hub with woken } } := by
  unfold World.complete
  dsimp only
  split
  · exact ⟨_, true, rfl⟩
  · exact ⟨_, world.hub.woken, rfl⟩

theorem beginSwitch_eq (world : World Q ν σ) :
    ∃ front, world.beginSwitch = { world with front }.note .switchBegun := by
  unfold World.beginSwitch
  split
  · exact ⟨_, rfl⟩
  · exact ⟨world.front, rfl⟩

end World

namespace Run

/-- It holds of everything that can happen. -/
structure Throughout (R : World Q ν σ → World Q ν σ → Prop) : Prop where
  carries : Carries fun _ => R
  signs : Signs fun _ => R
  answer {turns : Nat} {switch : Switch Q ν σ} {α : Type} {request : Request ν σ α} (other : request.ofTimers = false)
    {world after : World Q ν σ} {reply : α} (answered : Run.answer turns switch request world = some (reply, after)) :
    R world after
  call (world : World Q ν σ) (delay : Nat) (label : String) (callback : Callback ν σ) :
    R world (world.schedule delay (.call label callback)).2
  beginSwitch (world : World Q ν σ) : R world world.beginSwitch
  wake (world : World Q ν σ) : R world world.wake
  clearWoken (world : World Q ν σ) : R world world.clearWoken
  setInCallback (world : World Q ν σ) (inCallback : Bool) : R world (world.setInCallback inCallback)
  runOut {world rest : World Q ν σ} (found : world.takeNext = (none, rest)) : R world rest
  fire {world rest : World Q ν σ} {alarm : Alarm} {action : Action ν σ}
    (found : world.takeNext = (some (alarm, action), rest)) : R world (rest.arrive alarm)
  reportFailure (world : World Q ν σ) (label : String) (error : HubError) : R world (world.reportFailure label error)

namespace Throughout

variable {R : World Q ν σ → World Q ν σ → Prop} (throughout : Throughout R) {turns : Nat}

include throughout

theorem answers {switch : Switch Q ν σ} (switches : Along (fun _ => R) (fun _ => []) switch) {α : Type}
    (request : Request ν σ α) : Along (fun _ => R) (fun _ => []) (Run.answer turns switch request) := by
  have along : Along (fun _ => R) (callsIn turns switch (fun _ => []) request) (Run.answer turns switch request) := by
    apply throughout.carries.answer switches turns _ _ request
    · exact fun other world reply after answered => throughout.answer other answered
    · exact throughout.carries.wait switches throughout.signs turns
    · exact throughout.carries.get switches throughout.signs turns
  exact along

theorem program {switch : Switch Q ν σ} (switches : Along (fun _ => R) (fun _ => []) switch) {α : Type}
    (program : Program ν σ α) {world after : World Q ν σ} {value : α}
    (ran : Run.program turns switch program world = some (value, after)) : R world after := by
  have along : Along (fun _ => R) (programCalls turns switch (fun _ => []) program)
      (Run.program turns switch program) :=
    throughout.carries.program turns (fun request _ => throughout.answers switches request)
      (fun world delay label callback _ => throughout.call world delay label callback) program program.asks_anything
  exact along world value after ran

theorem turn (loops : Along (fun _ => R) (fun _ => []) (Run.loop turns : Switch Q ν σ)) {world : World Q ν σ}
    {taken : Turn Q ν σ} (ran : Run.turn turns world = some taken) : R world taken.world := by
  have along : Along (fun _ => R) (guardedCalls (fun _ => [])) (Run.guarded (Run.loop turns) : Switch Q ν σ) :=
    throughout.carries.guarded throughout.beginSwitch loops
  have switches : Along (fun _ => R) (fun _ => []) (Run.guarded (Run.loop turns) : Switch Q ν σ) := along
  unfold Run.turn at ran
  split at ran
  · cases ran
    exact throughout.clearWoken world
  split at ran
  next found =>
    cases ran
    exact throughout.runOut found
  next alarm action rest found =>
    have fired := throughout.fire found
    cases action with
    | wake =>
      cases ran
      exact throughout.carries.join fired (throughout.wake _)
    | raise error =>
      cases ran
      exact fired
    | call label callback =>
      obtain ⟨⟨outcome, after⟩, called, rfl⟩ := Option.map_eq_some_iff.mp ran
      have begun := throughout.carries.join fired (throughout.setInCallback _ true)
      have ended := throughout.carries.join begun (throughout.program switches callback called)
      have left := throughout.carries.join ended (throughout.setInCallback after false)
      rcases outcome with (error | panic) | _
      · exact throughout.carries.join left (throughout.reportFailure _ label error)
      · exact left
      · exact left

theorem loop (turns : Nat) : Along (fun _ => R) (fun _ => []) (Run.loop turns : Switch Q ν σ) := by
  have along : Along (fun _ => R) (loopCalls turns) (Run.loop turns : Switch Q ν σ) :=
    throughout.carries.loop (fun _ loops _ _ ran => throughout.turn loops ran) turns
  exact along

theorem guarded (turns : Nat) : Along (fun _ => R) (fun _ => []) (Run.guarded (Run.loop turns) : Switch Q ν σ) := by
  have along : Along (fun _ => R) (guardedCalls (fun _ => [])) (Run.guarded (Run.loop turns) : Switch Q ν σ) :=
    throughout.carries.guarded throughout.beginSwitch (throughout.loop turns)
  exact along

theorem meets {switch : Switch Q ν σ} (switches : Along (fun _ => R) (fun _ => []) switch) {during : Meeting Q ν σ}
    (within : ∀ world moment, during world moment → R world moment) {α : Type} {program : Program ν σ α}
    {world moment : World Q ν σ} (met : Meets turns switch during program world moment) : R world moment :=
  throughout.carries.meets (fun request _ => throughout.answers switches request)
    (throughout.carries.meetsIn throughout.signs switches within)
    (fun world delay label callback _ => throughout.call world delay label callback) program.asks_anything met

theorem guardedMeets {during : Meeting Q ν σ} (within : ∀ world moment, during world moment → R world moment)
    (world moment : World Q ν σ) (met : Run.guardedMeets during world moment) : R world moment :=
  throughout.carries.guardedMeets throughout.beginSwitch within met

theorem loopMeets (turns : Nat) (world moment : World Q ν σ) (met : Run.loopMeets turns world moment) :
    R world moment := by
  apply throughout.carries.loopMeets (fun turns _ _ => throughout.turn (throughout.loop turns)) _ turns world moment met
  intro turns within world moment alarm label callback rest found met
  have begun := throughout.carries.join (throughout.fire found) (throughout.setInCallback _ true)
  exact throughout.carries.join begun (throughout.meets (throughout.guarded turns) (throughout.guardedMeets within) met)

end Throughout

end Run

/-- What holds of everything that can happen holds between the beginning and the end of a run. -/
theorem Program.run_passes {R : World Q ν σ → World Q ν σ → Prop} (throughout : Run.Throughout R) {α : Type}
    {turns : Nat} {program : Program ν σ α} {world after : World Q ν σ} {value : α}
    (ran : program.run turns world = some (value, after)) : R world after :=
  throughout.program (throughout.guarded turns) program ran

/-- It also holds between the beginning and each moment of a run. -/
theorem Program.meets_passes {R : World Q ν σ → World Q ν σ → Prop} (throughout : Run.Throughout R) {α : Type}
    {turns : Nat} {program : Program ν σ α} {world moment : World Q ν σ} (met : program.Meets turns world moment) :
    R world moment :=
  throughout.meets (throughout.guarded turns) (throughout.guardedMeets (throughout.loopMeets turns)) met

end Testbench
