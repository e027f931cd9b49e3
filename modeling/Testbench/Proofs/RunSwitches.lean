import Testbench.Proofs.RunPassages

/-! The switches that a run makes. A moment of a run is between two requests, or it is in a switch: at the head of the
hub's loop, or in one of the callbacks that the hub runs. Outside the callbacks no callback is marked as running, and
inside them one is. -/

namespace Testbench

variable {ν σ : Type} {Q : Type 1} [TimerQueue (Action ν σ) Q]

namespace Run

section

variable {turns : Nat} {switch : Switch Q ν σ} {during : Meeting Q ν σ}

/-- The run comes to where the rest of the program is still to be run. -/
inductive Reaches (turns : Nat) (switch : Switch Q ν σ) {α : Type} :
    Program ν σ α → World Q ν σ → Program ν σ α → World Q ν σ → Prop where
  | here {program : Program ν σ α} {world : World Q ν σ} : Reaches turns switch program world program world
  | request {β : Type} {asked : Request ν σ β} {next : β → Program ν σ α} {reply : β} {rest : Program ν σ α}
      {world after later : World Q ν σ} (answered : answer turns switch asked world = some (reply, after))
      (reaches : Reaches turns switch (next reply) after rest later) :
      Reaches turns switch (.request asked next) world rest later
  | call {after : Nat} {label : String} {callback : Callback ν σ} {next : Except Panic Nat → Program ν σ α}
      {reply : Except Panic Nat} {rest : Program ν σ α} {world armed later : World Q ν σ}
      (scheduled : world.schedule after (.call label callback) = (reply, armed))
      (reaches : Reaches turns switch (next reply) armed rest later) :
      Reaches turns switch (.call after label callback next) world rest later

/-- The run makes a switch that begins here. The switches of the callbacks are not its own. -/
def Switches (turns : Nat) (switch : Switch Q ν σ) {α : Type} (program : Program ν σ α) : Meeting Q ν σ :=
  fun world begun => ∃ (β : Type) (asked : Request ν σ β) (next : β → Program ν σ α) (before : World Q ν σ),
    Reaches turns switch program world (.request asked next) before ∧ MeetsIn turns switch Eq asked before begun

omit [TimerQueue (Action ν σ) Q] in
theorem meetsUntil_iff {done : World Q ν σ → Bool} {left : Nat} {world moment : World Q ν σ} :
    MeetsUntil switch during done left world moment ↔
      ∃ begun, MeetsUntil switch Eq done left world begun ∧ during begun moment := by
  constructor
  · intro met
    induction met with
    | within met => exact ⟨_, .within rfl, met⟩
    | again switched undone _ ih =>
      obtain ⟨begun, before, met⟩ := ih
      exact ⟨begun, .again switched undone before, met⟩
  · rintro ⟨begun, before, met⟩
    induction before with
    | within same => exact .within (same ▸ met)
    | again switched undone _ ih => exact .again switched undone (ih met)

theorem meetsIn_iff {β : Type} {asked : Request ν σ β} {world moment : World Q ν σ} :
    MeetsIn turns switch during asked world moment ↔
      ∃ begun, MeetsIn turns switch Eq asked world begun ∧ during begun moment := by
  constructor
  · intro met
    cases met with
    | switch met => exact ⟨_, .switch rfl, met⟩
    | sleep scheduled met => exact ⟨_, .sleep scheduled rfl, met⟩
    | wait unset start met =>
      obtain ⟨begun, before, met⟩ := meetsUntil_iff.mp met
      exact ⟨begun, .wait unset start before, met⟩
    | get unready start met =>
      obtain ⟨begun, before, met⟩ := meetsUntil_iff.mp met
      exact ⟨begun, .get unready start before, met⟩
  · rintro ⟨begun, before, met⟩
    cases before with
    | switch same => exact .switch (same ▸ met)
    | sleep scheduled same => exact .sleep scheduled (same ▸ met)
    | wait unset start before => exact .wait unset start (meetsUntil_iff.mpr ⟨begun, before, met⟩)
    | get unready start before => exact .get unready start (meetsUntil_iff.mpr ⟨begun, before, met⟩)

theorem Reaches.trans {α : Type} {program rest last : Program ν σ α} {world mid later : World Q ν σ}
    (first : Reaches turns switch program world rest mid) (second : Reaches turns switch rest mid last later) :
    Reaches turns switch program world last later := by
  induction first with
  | here => exact second
  | request answered _ ih => exact .request answered (ih second)
  | call scheduled _ ih => exact .call scheduled (ih second)

theorem Reaches.meets {α : Type} {program rest : Program ν σ α} {world mid moment : World Q ν σ}
    (reaches : Reaches turns switch program world rest mid) (met : Meets turns switch during rest mid moment) :
    Meets turns switch during program world moment := by
  induction reaches with
  | here => exact met
  | request answered _ ih => exact .request answered (ih met)
  | call scheduled _ ih => exact .call scheduled (ih met)

theorem reaches_pure_iff {α : Type} {program : Program ν σ α} {world after : World Q ν σ} {value : α} :
    Reaches turns switch program world (.pure value) after ↔ Run.program turns switch program world = some (value, after) := by
  constructor
  · intro reaches
    generalize ended : Program.pure value = rest at reaches
    induction reaches with
    | here => rw [← ended]; rfl
    | request answered _ ih => simp only [Run.program, answered, ih ended]
    | call scheduled _ ih => simp only [Run.program, scheduled, ih ended]
  · intro ran
    induction program generalizing world with
    | pure value => cases ran; exact .here
    | request asked next ih =>
      simp only [Run.program] at ran
      split at ran
      · cases ran
      next reply later answered => exact .request answered (ih reply ran)
    | call delay label callback next _ ih => exact .call rfl (ih _ ran)

/-- A moment is between two requests of the program, or in a switch of it. -/
theorem meets_iff {α : Type} {program : Program ν σ α} {world moment : World Q ν σ} :
    Meets turns switch during program world moment ↔ (∃ rest, Reaches turns switch program world rest moment) ∨
      ∃ begun, Switches turns switch program world begun ∧ during begun moment := by
  constructor
  · intro met
    induction met with
    | here => exact .inl ⟨_, .here⟩
    | inside met =>
      obtain ⟨begun, before, met⟩ := meetsIn_iff.mp met
      exact .inr ⟨begun, ⟨_, _, _, _, .here, before⟩, met⟩
    | request answered _ ih =>
      obtain ⟨rest, reaches⟩ | ⟨begun, ⟨β, asked, next, before, reaches, begins⟩, met⟩ := ih
      · exact .inl ⟨rest, .request answered reaches⟩
      · exact .inr ⟨begun, ⟨β, asked, next, before, .request answered reaches, begins⟩, met⟩
    | call scheduled _ ih =>
      obtain ⟨rest, reaches⟩ | ⟨begun, ⟨β, asked, next, before, reaches, begins⟩, met⟩ := ih
      · exact .inl ⟨rest, .call scheduled reaches⟩
      · exact .inr ⟨begun, ⟨β, asked, next, before, .call scheduled reaches, begins⟩, met⟩
  · rintro (⟨rest, reaches⟩ | ⟨begun, ⟨β, asked, next, before, reaches, begins⟩, met⟩)
    · exact reaches.meets .here
    · exact reaches.meets (.inside (meetsIn_iff.mpr ⟨begun, begins, met⟩))

end

/-- The heads of the hub's loop. -/
def loopHeads : Nat → Meeting Q ν σ
  | 0, _, _ => False
  | turns + 1, world, moment => moment = world ∨ ∃ next, turn turns world = some (.stays next) ∧ loopHeads turns next moment

/-- The moments of the callbacks that the hub's loop runs. -/
def loopCalled : Nat → Meeting Q ν σ
  | 0, _, _ => False
  | turns + 1, world, moment =>
    (world.hub.woken = false ∧ ∃ alarm label callback rest, world.takeNext = (some (alarm, .call label callback), rest) ∧
      Meets turns (guarded (loop turns)) (guardedMeets (loopMeets turns)) callback
        ((rest.arrive alarm).setInCallback true) moment) ∨
    ∃ next, turn turns world = some (.stays next) ∧ loopCalled turns next moment

theorem loopMeets_iff {turns : Nat} {world moment : World Q ν σ} :
    loopMeets turns world moment ↔ loopHeads turns world moment ∨ loopCalled turns world moment := by
  induction turns generalizing world with
  | zero => simp only [loopMeets, loopHeads, loopCalled, or_self]
  | succ turns ih =>
    simp only [loopMeets, loopHeads, loopCalled, ih, and_or_left, exists_or]
    rw [← or_assoc, or_or_or_comm]

end Run

namespace Program

variable {α : Type} {turns : Nat} {program : Program ν σ α} {world moment : World Q ν σ}

/-- The moment is the run's own: no callback runs. -/
def MeetsOutside (turns : Nat) (program : Program ν σ α) : Run.Meeting Q ν σ :=
  Run.Meets turns (Run.switch turns) (Run.guardedMeets (Run.loopHeads turns)) program

/-- The moment is in a callback, which the hub runs in a switch of the run. -/
def MeetsCalled (turns : Nat) (program : Program ν σ α) : Run.Meeting Q ν σ := fun world moment =>
  ∃ begun, Run.Switches turns (Run.switch turns) program world begun ∧ Run.guardedMeets (Run.loopCalled turns) begun moment

theorem meets_iff_outside_or_called :
    program.Meets turns world moment ↔ program.MeetsOutside turns world moment ∨ program.MeetsCalled turns world moment := by
  unfold Program.Meets MeetsOutside MeetsCalled
  simp only [@Run.meets_iff _ _ _ _ _ _ (Run.guardedMeets _), Run.guardedMeets, Run.loopMeets_iff, and_or_left, exists_or,
    or_assoc]

end Program

/-! The mark of a running callback. -/

namespace Run

/-- Outside it goes on outside. -/
def Outside (world after : World Q ν σ) : Prop := world.hub.inCallback = false → after.hub.inCallback = false

omit [TimerQueue (Action ν σ) Q] in
theorem outside_of_same {world after : World Q ν σ} (same : after.hub.inCallback = world.hub.inCallback) :
    Outside world after := same.trans

theorem carries_outside : Carries fun _ (world after : World Q ν σ) => Outside world after := by
  refine carries_of_timers (fun _ => id) (fun first second outside => second (first outside)) ?_ ?_ (fun _ _ _ => id)
  · exact fun world delay signal => outside_of_same (inCallback_schedule world delay signal.action)
  · exact fun world timer => outside_of_same (carries_sameCallback.cancel world timer)

omit [TimerQueue (Action ν σ) Q] in
theorem signs_outside : Signs fun _ (world after : World Q ν σ) => Outside world after :=
  ⟨fun _ _ => id, fun _ _ => id, fun _ _ => id, fun _ _ => id⟩

/-- The mark goes away when a callback ends, however it ends. -/
theorem outside_turn {turns : Nat} {world : World Q ν σ} {taken : Turn Q ν σ} (ran : turn turns world = some taken) :
    Outside world taken.world := by
  unfold turn at ran
  split at ran
  · cases ran; exact id
  split at ran
  next found => cases ran; obtain ⟨-, rfl⟩ := Prod.mk.inj found; exact id
  next alarm action rest found =>
    obtain ⟨-, rfl⟩ := Prod.mk.inj found
    cases action with
    | wake | raise => cases ran; exact id
    | call label callback =>
      obtain ⟨⟨outcome, after⟩, -, rfl⟩ := Option.map_eq_some_iff.mp ran
      rcases outcome with (error | panic) | _ <;> exact fun _ => rfl

theorem outside_loop (turns : Nat) : Along (fun _ => Outside) (fun _ => []) (loop turns : Switch Q ν σ) := by
  have along : Along (fun _ => Outside) (loopCalls turns) (loop turns : Switch Q ν σ) :=
    carries_outside.loop (fun _ _ _ _ ran => outside_turn ran) turns
  exact along

theorem outside_switch (turns : Nat) : Along (fun _ => Outside) (fun _ => []) (switch turns : Switch Q ν σ) := by
  have along : Along (fun _ => Outside) (guardedCalls fun _ => []) (switch turns : Switch Q ν σ) :=
    carries_outside.guarded (fun world => outside_of_same (inCallback_beginSwitch world)) (outside_loop turns)
  exact along

theorem outside_answer {turns : Nat} {β : Type} (request : Request ν σ β) :
    Along (fun _ => Outside) (fun _ => []) (answer turns (switch turns : Switch Q ν σ) request) := by
  have along : Along (fun _ => Outside) (callsIn turns (switch turns) (fun _ => []) request)
      (answer turns (switch turns : Switch Q ν σ) request) := by
    apply carries_outside.answer (outside_switch turns) turns _ _ request
    · exact fun other world value after answered => outside_of_same (inCallback_answer other answered)
    · exact carries_outside.wait (outside_switch turns) signs_outside turns
    · exact carries_outside.get (outside_switch turns) signs_outside turns
  exact along

theorem outside_loopHeads {turns : Nat} {world moment : World Q ν σ} (met : loopHeads turns world moment) :
    Outside world moment := by
  induction turns generalizing world with
  | zero => exact met.elim
  | succ turns ih =>
    obtain rfl | ⟨next, stayed, met⟩ := met
    · exact id
    · exact fun outside => ih met (outside_turn stayed outside)

theorem callbacks_sameCallback : CarriesCallbacks (SameCallback : Passage Q ν σ) fun _ => True :=
  carries_sameCallback.callbacks signs_sameCallback inCallback_beginSwitch
    (fun world delay _ _ => inCallback_schedule world delay _) (fun other _ _ _ answered => inCallback_answer other answered)

/-- A callback runs until it ends. -/
theorem inCallback_of_loopCalled {turns : Nat} {world moment : World Q ν σ} (met : loopCalled turns world moment) :
    moment.hub.inCallback = true := by
  induction turns generalizing world with
  | zero => exact met.elim
  | succ turns ih =>
    obtain ⟨-, alarm, label, callback, rest, -, met⟩ | ⟨next, -, met⟩ := met
    · have still : SameCallback [] _ moment :=
        carries_sameCallback.callbackMeets callbacks_sameCallback callback.asks_anything rfl met
      exact still
    · exact ih met

end Run

namespace Program

variable {α : Type} {turns : Nat} {program : Program ν σ α} {world moment : World Q ν σ}

theorem MeetsOutside.inCallback (met : program.MeetsOutside turns world moment)
    (outside : world.hub.inCallback = false) : moment.hub.inCallback = false := by
  have within (world moment : World Q ν σ) (met : Run.guardedMeets (Run.loopHeads turns) world moment) :
      Run.Outside world moment :=
    Run.carries_outside.guardedMeets (fun world => Run.outside_of_same (Run.inCallback_beginSwitch world))
      (fun _ _ => Run.outside_loopHeads) met
  have passes : Run.Outside world moment := Run.carries_outside.meets (fun request _ => Run.outside_answer request)
    (Run.carries_outside.meetsIn Run.signs_outside (Run.outside_switch turns) within)
    (fun world delay _ _ _ => Run.outside_of_same (Run.inCallback_schedule world delay _)) program.asks_anything met
  exact passes outside

theorem MeetsCalled.inCallback (met : program.MeetsCalled turns world moment) : moment.hub.inCallback = true := by
  obtain ⟨_, -, -, met⟩ := met
  exact Run.inCallback_of_loopCalled met

end Program

end Testbench
