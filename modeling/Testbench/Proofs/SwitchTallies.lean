import Testbench.Proofs.RunPassages

/-! How many switches a run begins. They are counted along the run, one for each time that control is to leave a task,
whatever comes of it: a switch that is refused, interrupted or fails has begun like any other. A front that counts has
come to the same number at every moment. -/

namespace Testbench

variable {ν σ : Type} {Q : Type 1} [TimerQueue (Action ν σ) Q]

namespace Run

/-- How many switches are begun on the way from a world. -/
abbrev Tally (Q : Type 1) (ν σ : Type) := World Q ν σ → Nat

/-- From where something started, how many switches have begun since, and a world it came to by then. -/
abbrev Progress (Q : Type 1) (ν σ : Type) := World Q ν σ → Nat → World Q ν σ → Prop

section

variable (turns : Nat) (switch : Switch Q ν σ) (tally : Tally Q ν σ)

def untilTally (done : World Q ν σ → Bool) : Nat → Tally Q ν σ
  | 0, _ => 0
  | turns + 1, world =>
    tally world +
      match switch world with
      | some (.ok (), after) => if done after then 0 else untilTally done turns after
      | _ => 0

def tallyIn {α : Type} : Request ν σ α → Tally Q ν σ
  | .switch, world => tally world
  | .sleep after, world =>
    match world.schedule after .wake with
    | (.ok _, armed) => tally armed
    | _ => 0
  | .wait id limit, world =>
    if (world.event id).isSet then 0
    else
      match world.startLimit limit with
      | (.ok _, started) => untilTally switch tally (fun world => (world.event id).isSet) turns
        (started.addEventWaiter id)
      | _ => 0
  | .get id limit, world =>
    if (world.result id).isReady then 0
    else
      match world.startLimit limit with
      | (.ok _, started) => untilTally switch tally (fun world => (world.result id).isReady) turns
        (started.addResultWaiter id)
      | _ => 0
  | _, _ => 0

def programTally {α : Type} : Program ν σ α → Tally Q ν σ
  | .pure _, _ => 0
  | .request asked next, world =>
    tallyIn turns switch tally asked world +
      match answer turns switch asked world with
      | some (reply, after) => programTally (next reply) after
      | none => 0
  | .call after label callback next, world =>
    let (reply, armed) := world.schedule after (.call label callback)
    programTally (next reply) armed

/-- The switch itself is one, also when it is refused. -/
def guardedTally : Tally Q ν σ := fun world =>
  1 + if world.hub.inCallback then 0 else tally world.beginSwitch

variable (comes : Progress Q ν σ)

inductive ComesUntil (done : World Q ν σ → Bool) : Nat → Progress Q ν σ where
  | within {turns switches : Nat} {world moment : World Q ν σ} (came : comes world switches moment) :
      ComesUntil done (turns + 1) world switches moment
  | again {turns switches : Nat} {world after moment : World Q ν σ} (switched : switch world = some (.ok (), after))
      (undone : done after = false) (rest : ComesUntil done turns after switches moment) :
      ComesUntil done (turns + 1) world (tally world + switches) moment

inductive ComesIn : {α : Type} → Request ν σ α → Progress Q ν σ where
  | switch {switches : Nat} {world moment : World Q ν σ} (came : comes world switches moment) :
      ComesIn .switch world switches moment
  | sleep {after timer switches : Nat} {world armed moment : World Q ν σ}
      (scheduled : world.schedule after .wake = (.ok timer, armed)) (came : comes armed switches moment) :
      ComesIn (.sleep after) world switches moment
  | wait {id : EventId} {limit : WaitLimit} {timeout : Option Timeout} {switches : Nat}
      {world started moment : World Q ν σ}
      (unset : (world.event id).isSet = false) (start : world.startLimit limit = (.ok timeout, started))
      (came : ComesUntil switch tally comes (fun world => (world.event id).isSet) turns (started.addEventWaiter id)
        switches moment) : ComesIn (.wait id limit) world switches moment
  | get {id : ResultId} {limit : WaitLimit} {timeout : Option Timeout} {switches : Nat}
      {world started moment : World Q ν σ}
      (unready : (world.result id).isReady = false) (start : world.startLimit limit = (.ok timeout, started))
      (came : ComesUntil switch tally comes (fun world => (world.result id).isReady) turns (started.addResultWaiter id)
        switches moment) : ComesIn (.get id limit) world switches moment

/-- The moments of a program as they are met, with the switches begun before each. -/
inductive Comes : {α : Type} → Program ν σ α → Progress Q ν σ where
  | here {α : Type} {program : Program ν σ α} {world : World Q ν σ} : Comes program world 0 world
  | inside {α β : Type} {asked : Request ν σ β} {next : β → Program ν σ α} {switches : Nat} {world moment : World Q ν σ}
      (came : ComesIn turns switch tally comes asked world switches moment) :
      Comes (.request asked next) world switches moment
  | request {α β : Type} {asked : Request ν σ β} {next : β → Program ν σ α} {reply : β} {switches : Nat}
      {world after moment : World Q ν σ} (answered : answer turns switch asked world = some (reply, after))
      (rest : Comes (next reply) after switches moment) :
      Comes (.request asked next) world (tallyIn turns switch tally asked world + switches) moment
  | call {α : Type} {after : Nat} {label : String} {callback : Callback ν σ} {next : Except Panic Nat → Program ν σ α}
      {reply : Except Panic Nat} {switches : Nat} {world armed moment : World Q ν σ}
      (scheduled : world.schedule after (.call label callback) = (reply, armed))
      (rest : Comes (next reply) armed switches moment) : Comes (.call after label callback next) world switches moment

/-- In a switch, that switch has begun already. -/
def guardedComes : Progress Q ν σ := fun world switches moment =>
  world.hub.inCallback = false ∧ ∃ inside, switches = 1 + inside ∧ comes world.beginSwitch inside moment

end

/-- The switches that the callback of a turn begins, if the turn runs one. -/
def calledTally (turns : Nat) (tally : Tally Q ν σ) : Tally Q ν σ := fun world =>
  if world.hub.woken then 0
  else
    match world.takeNext with
    | (some (alarm, .call _ callback), rest) =>
      programTally turns (guarded (loop turns)) (guardedTally tally) callback ((rest.arrive alarm).setInCallback true)
    | _ => 0

def loopTally : Nat → Tally Q ν σ
  | 0, _ => 0
  | turns + 1, world =>
    calledTally turns (loopTally turns) world +
      match turn turns world with
      | some (.stays next) => loopTally turns next
      | _ => 0

def loopComes : Nat → Progress Q ν σ
  | 0, _, _, _ => False
  | turns + 1, world, switches, moment =>
    (moment = world ∧ switches = 0) ∨
    (world.hub.woken = false ∧ ∃ alarm label callback rest, world.takeNext = (some (alarm, .call label callback), rest) ∧
      Comes turns (guarded (loop turns)) (guardedTally (loopTally turns)) (guardedComes (loopComes turns)) callback
        ((rest.arrive alarm).setInCallback true) switches moment) ∨
    ∃ next later, turn turns world = some (.stays next) ∧ switches = calledTally turns (loopTally turns) world + later ∧
      loopComes turns next later moment

end Run

namespace Program

variable {α : Type}

/-- The switches that the run of the program begins, those that callbacks ask for included. -/
def switchesBegun (turns : Nat) (program : Program ν σ α) : Run.Tally Q ν σ :=
  Run.programTally turns (Run.switch turns) (Run.guardedTally (Run.loopTally turns)) program

/-- The run of the program comes by the moment when so many switches have begun. -/
def Comes (turns : Nat) (program : Program ν σ α) : Run.Progress Q ν σ :=
  Run.Comes turns (Run.switch turns) (Run.guardedTally (Run.loopTally turns)) (Run.guardedComes (Run.loopComes turns))
    program

end Program

/-! A front that counts misses none and counts none twice. -/

/-- The front has counted so many switches more, if it counts. -/
def Front.plus (front : Front) (switches : Nat) : Front :=
  match front with
  | .counting counted => .counting (counted + switches)
  | other => other

@[simp] theorem Front.plus_zero (front : Front) : front.plus 0 = front := by cases front <;> rfl

theorem Front.plus_plus (front : Front) (switches more : Nat) :
    (front.plus switches).plus more = front.plus (switches + more) := by
  cases front with
  | counting counted => exact congrArg Front.counting (Nat.add_assoc ..)
  | direct | closed => rfl

/-- What a program that asks for the count is told. -/
def Front.count? : Front → Option Nat
  | .counting counted => some counted
  | _ => none

theorem Front.plus_eq_closed_iff {front : Front} {switches : Nat} : front.plus switches = .closed ↔ front = .closed := by
  cases front <;> simp [Front.plus]

namespace World

omit [TimerQueue (Action ν σ) Q]

theorem switchCount_eq (world : World Q ν σ) : world.switchCount = world.front.count? := by
  obtain ⟨clock, hub, front⟩ := world
  cases front <;> rfl

theorem beginSwitch_plus (world : World Q ν σ) :
    world.beginSwitch = { world with front := world.front.plus 1 }.note .switchBegun := by
  obtain ⟨clock, hub, front⟩ := world
  cases front <;> rfl

theorem front_beginSwitch (world : World Q ν σ) : world.beginSwitch.front = world.front.plus 1 := by
  rw [beginSwitch_plus]
  rfl

end World

namespace Run

/-- No switch begins. -/
def SameFront : Passage Q ν σ := fun _ world after => after.front = world.front

theorem front_schedule (world : World Q ν σ) (delay : Nat) (action : Action ν σ) :
    (world.schedule delay action).2.front = world.front := by
  unfold World.schedule
  dsimp only
  split <;> rfl

theorem front_cancel (world : World Q ν σ) (timer : Nat) : (world.cancel timer).2.front = world.front := by
  unfold World.cancel
  split <;> rfl

theorem carries_sameFront : Carries (SameFront : Passage Q ν σ) :=
  carries_of_timers (fun _ => rfl) (fun first second => second.trans first)
    (fun world delay signal => front_schedule world delay signal.action) front_cancel fun _ _ _ => rfl

theorem front_takeNext {world rest : World Q ν σ} {found : Option (Alarm × Action ν σ)}
    (taken : world.takeNext = (found, rest)) : rest.front = world.front := by
  obtain ⟨-, rfl⟩ := Prod.mk.inj taken
  rfl

theorem front_startLimit {world started : World Q ν σ} {limit : WaitLimit} {outcome : Except Panic (Option Timeout)}
    (start : world.startLimit limit = (outcome, started)) : started.front = world.front := by
  have same := carries_sameFront.startLimit world limit
  rwa [start] at same

theorem front_endLimit (world : World Q ν σ) (timeout : Option Timeout) : (world.endLimit timeout).front = world.front :=
  carries_sameFront.endLimit world timeout

/-- Requests that do not switch. -/
theorem front_answer {α : Type} {turns : Nat} {switch : Switch Q ν σ} {request : Request ν σ α}
    (other : request.ofTimers = false) {world after : World Q ν σ} {value : α}
    (answered : answer turns switch request world = some (value, after)) : after.front = world.front := by
  cases request with
  | switch | sleep | wait | get | newTimeout | startTimeout | cancelTimeout => cases other
  | hub request =>
    cases request with
    | schedule | cancel => cases other
    | _ => cases answered; rfl
  | setEvent event =>
    cases answered
    unfold World.setEvent
    dsimp only
    split <;> rfl
  | complete result value =>
    cases answered
    unfold World.complete
    dsimp only
    split <;> rfl
  | _ => cases answered; rfl

/-- The front counts what is tallied. -/
def Exact {α : Type} (tally : Tally Q ν σ) (run : Run Q ν σ α) : Prop :=
  ∀ world value after, run world = some (value, after) → after.front = world.front.plus (tally world)

omit [TimerQueue (Action ν σ) Q] in
theorem exact_total {α : Type} {run : World Q ν σ → α × World Q ν σ} (same : ∀ world, (run world).2.front = world.front) :
    Exact (fun _ => 0) fun world => some (run world) := by
  intro world value after ran
  rw [Front.plus_zero, ← same world, Option.some.inj ran]

section

variable {turns : Nat} {switch : Switch Q ν σ} {tally : Tally Q ν σ} (exactly : Exact tally switch)

include exactly

omit [TimerQueue (Action ν σ) Q] in
theorem exact_untilSet (id : EventId) (left : Nat) :
    Exact (untilTally switch tally (fun world => (world.event id).isSet) left) (untilSet switch id left) := by
  induction left with
  | zero => intro world value after ran; cases ran
  | succ left ih =>
    intro world value after ran
    simp only [untilSet] at ran
    simp only [untilTally]
    split at ran
    · cases ran
    next stop mid switched =>
      cases ran
      simpa only [switched, Nat.add_zero] using exactly _ _ _ switched
    next mid switched =>
      have counted := exactly _ _ _ switched
      simp only [switched]
      split at ran
      next done =>
        cases ran
        simpa only [done, if_true, Nat.add_zero] using counted
      next undone =>
        simp only [undone, Bool.false_eq_true, if_false, ← Front.plus_plus, ← counted]
        exact ih mid value after ran

omit [TimerQueue (Action ν σ) Q] in
theorem exact_untilReady (id : ResultId) (left : Nat) :
    Exact (untilTally switch tally (fun world => (world.result id).isReady) left) (untilReady switch id left) := by
  induction left with
  | zero => intro world value after ran; cases ran
  | succ left ih =>
    intro world value after ran
    simp only [untilReady] at ran
    simp only [untilTally, AsyncResult.isReady]
    split at ran
    · cases ran
    next stop mid switched =>
      cases ran
      simpa only [switched, Nat.add_zero] using exactly _ _ _ switched
    next mid switched =>
      have counted := exactly _ _ _ switched
      simp only [switched]
      split at ran
      next value ready =>
        cases ran
        simpa only [ready, Option.isSome_some, if_true, Nat.add_zero] using counted
      next unready =>
        simp only [unready, Option.isSome_none, Bool.false_eq_true, if_false, ← Front.plus_plus, ← counted]
        exact ih mid value after ran

theorem exact_sleep (turns delay : Nat) : Exact (tallyIn turns switch tally (.sleep delay)) (sleep switch delay) := by
  intro world value after ran
  have scheduled := front_schedule world delay .wake
  unfold sleep at ran
  simp only [tallyIn]
  split at ran
  next panic mid answered =>
    cases ran
    rw [answered] at scheduled
    simpa only [answered, Front.plus_zero] using scheduled
  next timer armed answered =>
    rw [answered] at scheduled
    simp only [answered, ← scheduled]
    split at ran
    · cases ran
    next panic mid switched =>
      cases ran
      exact exactly _ _ _ switched
    next answer mid _ switched =>
      cases ran
      exact (front_cancel mid timer).trans (exactly _ _ _ switched)

theorem exact_wait (turns : Nat) (id : EventId) (limit : WaitLimit) :
    Exact (tallyIn turns switch tally (.wait id limit)) (wait turns switch id limit) := by
  intro world value after ran
  unfold wait at ran
  simp only [tallyIn]
  split at ran
  next set =>
    cases ran
    simp only [set, if_true, Front.plus_zero]
  next unset =>
    simp only [unset, Bool.false_eq_true, if_false]
    split at ran
    next panic mid start =>
      cases ran
      simpa only [start, Front.plus_zero] using front_startLimit start
    next timeout started start =>
      have waited := exact_untilSet exactly id turns (started.addEventWaiter id)
      have same : started.front = world.front := front_startLimit start
      simp only [start, ← same]
      split at ran
      · cases ran
      next panic mid switched =>
        cases ran
        exact (front_endLimit mid timeout).trans (waited _ _ switched)
      next error mid switched =>
        have counted := waited _ _ switched
        have ended := (front_endLimit (mid.removeEventWaiter id) timeout).trans counted
        dsimp only at ran
        split at ran <;> cases ran <;> exact ended
      next mid switched =>
        have counted := waited _ _ switched
        cases ran
        exact (front_endLimit (mid.removeEventWaiter id) timeout).trans counted

theorem exact_get (turns : Nat) (id : ResultId) (limit : WaitLimit) :
    Exact (tallyIn turns switch tally (.get id limit)) (get turns switch id limit) := by
  intro world value after ran
  unfold get at ran
  simp only [tallyIn, AsyncResult.isReady]
  split at ran
  next value ready =>
    cases ran
    simp only [ready, Option.isSome_some, if_true, Front.plus_zero]
  next unready =>
    simp only [unready, Option.isSome_none, Bool.false_eq_true, if_false]
    split at ran
    next panic mid start =>
      cases ran
      simpa only [start, Front.plus_zero] using front_startLimit start
    next timeout started start =>
      have waited := exact_untilReady exactly id turns (started.addResultWaiter id)
      have same : started.front = world.front := front_startLimit start
      simp only [start, ← same]
      split at ran
      · cases ran
      next panic mid switched =>
        cases ran
        exact (front_endLimit mid timeout).trans (waited _ _ switched)
      next answer mid _ switched =>
        have counted := waited _ _ switched
        cases ran
        exact (front_endLimit (mid.removeResultWaiter id) timeout).trans counted

theorem exact_answer (turns : Nat) {α : Type} (request : Request ν σ α) :
    Exact (tallyIn turns switch tally request) (answer turns switch request) := by
  cases request with
  | switch => exact exactly
  | sleep delay => exact exact_sleep exactly turns delay
  | wait id limit => exact exact_wait exactly turns id limit
  | get id limit => exact exact_get exactly turns id limit
  | newTimeout delay => exact exact_total fun _ => rfl
  | startTimeout timeout => exact exact_total fun world => carries_sameFront.startTimeout world timeout
  | cancelTimeout timeout => exact exact_total fun world => carries_sameFront.cancelTimeout world timeout
  | hub request =>
    cases request with
    | schedule delay signal => exact exact_total fun world => front_schedule world delay signal.action
    | cancel timer => exact exact_total fun world => front_cancel world timer
    | _ => exact exact_total fun _ => rfl
  | _ =>
    intro world value after answered
    exact (front_answer rfl answered).trans (Front.plus_zero _).symm

theorem exact_program (turns : Nat) {α : Type} (program : Program ν σ α) :
    Exact (programTally turns switch tally program) (Run.program turns switch program) := by
  induction program with
  | pure => exact exact_total fun _ => rfl
  | request asked next ih =>
    intro world value after ran
    simp only [Run.program] at ran
    split at ran
    · cases ran
    next reply mid answered =>
      have counted := exact_answer exactly turns asked _ _ _ answered
      simp only [programTally, answered, ← Front.plus_plus, ← counted]
      exact ih reply mid value after ran
  | call delay label callback next _ ih =>
    intro world value after ran
    rw [← front_schedule world delay (.call label callback)]
    exact ih _ _ _ _ ran

omit [TimerQueue (Action ν σ) Q] in
theorem exact_guarded : Exact (guardedTally tally) (guarded switch) := by
  intro world value after ran
  simp only [guarded, inCallback_beginSwitch] at ran
  simp only [guardedTally]
  rw [← Front.plus_plus, ← World.front_beginSwitch]
  split at ran
  next inside =>
    cases ran
    simp only [inside, if_true, Front.plus_zero]
  next outside =>
    simp only [outside]
    exact exactly _ _ _ ran

end

/-- A turn runs one callback at most, and begins no switch of its own. -/
theorem exact_turn {turns : Nat} {tally : Tally Q ν σ} (exactly : Exact tally (loop turns)) (world : World Q ν σ)
    (taken : Turn Q ν σ) (ran : turn turns world = some taken) :
    taken.world.front = world.front.plus (calledTally turns tally world) := by
  unfold turn at ran
  simp only [calledTally]
  split at ran
  next woken =>
    cases ran
    simp only [woken, if_true, Front.plus_zero]
    rfl
  next asleep =>
    simp only [asleep, Bool.false_eq_true, if_false]
    split at ran
    next rest found =>
      cases ran
      simp only [found, Front.plus_zero]
      exact front_takeNext found
    next alarm action rest found =>
      have same := front_takeNext found
      simp only [found]
      cases action with
      | wake | raise =>
        cases ran
        exact same.trans (Front.plus_zero _).symm
      | call label callback =>
        obtain ⟨⟨outcome, after⟩, called, rfl⟩ := Option.map_eq_some_iff.mp ran
        have counted := exact_program (exact_guarded exactly) turns callback _ _ _ called
        rw [← same]
        rcases outcome with (error | panic) | _ <;> exact counted

theorem exact_loop (turns : Nat) : Exact (loopTally turns : Tally Q ν σ) (loop turns) := by
  induction turns with
  | zero => intro world value after ran; cases ran
  | succ turns ih =>
    intro world value after ran
    have called := exact_turn ih
    rw [loop_succ] at ran
    simp only [loopTally]
    split at ran
    · cases ran
    next ending last taken =>
      cases ran
      simp only [taken, Nat.add_zero]
      exact called _ _ taken
    next next taken =>
      have counted := called _ _ taken
      simp only [taken, ← Front.plus_plus]
      exact (ih _ _ _ ran).trans (congrArg (Front.plus · _) counted)

/-! The same at each moment. -/

/-- The front has counted what has begun. -/
def ExactAlong (comes : Progress Q ν σ) : Prop :=
  ∀ world switches moment, comes world switches moment → moment.front = world.front.plus switches

section

variable {turns : Nat} {switch : Switch Q ν σ} {tally : Tally Q ν σ} {comes : Progress Q ν σ}
  (exactly : Exact tally switch) (along : ExactAlong comes)

include exactly along

omit [TimerQueue (Action ν σ) Q] in
theorem exact_comesUntil {done : World Q ν σ → Bool} {left : Nat} :
    ExactAlong (ComesUntil switch tally comes done left) := by
  intro world switches moment came
  induction came with
  | within came => exact along _ _ _ came
  | again switched undone _ ih => rw [ih, exactly _ _ _ switched, Front.plus_plus]

theorem exact_comesIn {α : Type} {request : Request ν σ α} : ExactAlong (ComesIn turns switch tally comes request) := by
  intro world switches moment came
  cases came with
  | switch came => exact along _ _ _ came
  | @sleep delay _ _ _ _ _ scheduled came =>
    have same := front_schedule world delay .wake
    rw [scheduled] at same
    rw [along _ _ _ came, same]
  | wait unset start came =>
    have counted := exact_comesUntil exactly along _ _ _ came
    rw [← front_startLimit start]
    exact counted
  | get unready start came =>
    have counted := exact_comesUntil exactly along _ _ _ came
    rw [← front_startLimit start]
    exact counted

theorem exact_comes {α : Type} {program : Program ν σ α} : ExactAlong (Comes turns switch tally comes program) := by
  intro world switches moment came
  induction came with
  | here => exact (Front.plus_zero _).symm
  | inside came => exact exact_comesIn exactly along _ _ _ came
  | request answered _ ih => rw [ih, exact_answer exactly turns _ _ _ _ answered, Front.plus_plus]
  | @call delay label callback _ _ _ world _ _ scheduled _ ih =>
    have same := front_schedule world delay (.call label callback)
    rw [scheduled] at same
    rw [ih, same]

omit [TimerQueue (Action ν σ) Q] exactly in
theorem exact_guardedComes : ExactAlong (guardedComes comes) := by
  rintro world switches moment ⟨-, inside, rfl, came⟩
  rw [along _ _ _ came, World.front_beginSwitch, Front.plus_plus]

end

theorem exact_loopComes (turns : Nat) : ExactAlong (loopComes turns : Progress Q ν σ) := by
  induction turns with
  | zero => exact fun _ _ _ came => came.elim
  | succ turns ih =>
    intro world switches moment came
    obtain ⟨rfl, rfl⟩ | ⟨-, alarm, label, callback, rest, found, came⟩ | ⟨next, later, stayed, rfl, came⟩ := came
    · exact (Front.plus_zero _).symm
    · have counted := exact_comes (exact_guarded (exact_loop turns)) (exact_guardedComes ih) _ _ _ came
      rw [← front_takeNext found]
      exact counted
    · have counted := exact_turn (exact_loop turns) _ _ stayed
      rw [← Front.plus_plus, ← counted]
      exact ih _ _ _ came

/-! Nothing is left out: these moments are those that are met. -/

section

variable {turns : Nat} {switch : Switch Q ν σ} {tally : Tally Q ν σ} {comes : Progress Q ν σ} {during : Meeting Q ν σ}
  (same : ∀ world moment, during world moment ↔ ∃ switches, comes world switches moment) {world moment : World Q ν σ}

include same

omit [TimerQueue (Action ν σ) Q] in
theorem meetsUntil_iff_comes {done : World Q ν σ → Bool} {left : Nat} :
    MeetsUntil switch during done left world moment ↔
      ∃ switches, ComesUntil switch tally comes done left world switches moment := by
  constructor
  · intro met
    induction met with
    | within met => exact ((same _ _).mp met).imp fun _ => .within
    | again switched undone _ ih => exact ih.elim fun _ came => ⟨_, .again switched undone came⟩
  · rintro ⟨switches, came⟩
    induction came with
    | within came => exact .within ((same _ _).mpr ⟨_, came⟩)
    | again switched undone _ ih => exact .again switched undone ih

theorem meetsIn_iff_comes {α : Type} {request : Request ν σ α} :
    MeetsIn turns switch during request world moment ↔
      ∃ switches, ComesIn turns switch tally comes request world switches moment := by
  constructor
  · intro met
    cases met with
    | switch met => exact ((same _ _).mp met).imp fun _ => .switch
    | sleep scheduled met => exact ((same _ _).mp met).imp fun _ => .sleep scheduled
    | wait unset start met => exact ((meetsUntil_iff_comes same).mp met).imp fun _ => .wait unset start
    | get unready start met => exact ((meetsUntil_iff_comes same).mp met).imp fun _ => .get unready start
  · rintro ⟨switches, came⟩
    cases came with
    | switch came => exact .switch ((same _ _).mpr ⟨_, came⟩)
    | sleep scheduled came => exact .sleep scheduled ((same _ _).mpr ⟨_, came⟩)
    | wait unset start came => exact .wait unset start ((meetsUntil_iff_comes same).mpr ⟨_, came⟩)
    | get unready start came => exact .get unready start ((meetsUntil_iff_comes same).mpr ⟨_, came⟩)

theorem meets_iff_comes {α : Type} {program : Program ν σ α} :
    Meets turns switch during program world moment ↔
      ∃ switches, Comes turns switch tally comes program world switches moment := by
  constructor
  · intro met
    induction met with
    | here => exact ⟨0, .here⟩
    | inside met => exact ((meetsIn_iff_comes same).mp met).imp fun _ => .inside
    | request answered _ ih => exact ih.elim fun _ came => ⟨_, .request answered came⟩
    | call scheduled _ ih => exact ih.imp fun _ => .call scheduled
  · rintro ⟨switches, came⟩
    induction came with
    | here => exact .here
    | inside came => exact .inside ((meetsIn_iff_comes same).mpr ⟨_, came⟩)
    | request answered _ ih => exact .request answered ih
    | call scheduled _ ih => exact .call scheduled ih

omit [TimerQueue (Action ν σ) Q] in
theorem guardedMeets_iff_comes :
    guardedMeets during world moment ↔ ∃ switches, guardedComes comes world switches moment := by
  simp only [guardedMeets, guardedComes, inCallback_beginSwitch, same]
  constructor
  · rintro ⟨outside, inside, came⟩
    exact ⟨_, outside, inside, rfl, came⟩
  · rintro ⟨_, outside, inside, -, came⟩
    exact ⟨outside, inside, came⟩

end

theorem loopMeets_iff_comes {turns : Nat} {world moment : World Q ν σ} :
    loopMeets turns world moment ↔ ∃ switches, loopComes turns world switches moment := by
  induction turns generalizing world moment with
  | zero => simp only [loopMeets, loopComes, exists_const]
  | succ turns ih =>
    have within (world moment : World Q ν σ) : guardedMeets (loopMeets turns) world moment ↔
        ∃ switches, guardedComes (loopComes turns) world switches moment := guardedMeets_iff_comes fun _ _ => ih
    constructor
    · rintro (rfl | ⟨asleep, alarm, label, callback, rest, found, met⟩ | ⟨next, stayed, met⟩)
      · exact ⟨0, .inl ⟨rfl, rfl⟩⟩
      · obtain ⟨switches, came⟩ := (meets_iff_comes within).mp met
        exact ⟨switches, .inr (.inl ⟨asleep, alarm, label, callback, rest, found, came⟩)⟩
      · obtain ⟨switches, came⟩ := ih.mp met
        exact ⟨_, .inr (.inr ⟨next, switches, stayed, rfl, came⟩)⟩
    · rintro ⟨switches, ⟨rfl, -⟩ | ⟨asleep, alarm, label, callback, rest, found, came⟩ | ⟨next, later, stayed, -, came⟩⟩
      · exact .inl rfl
      · exact .inr (.inl ⟨asleep, alarm, label, callback, rest, found, (meets_iff_comes within).mpr ⟨_, came⟩⟩)
      · exact .inr (.inr ⟨next, stayed, ih.mpr ⟨_, came⟩⟩)

end Run

namespace Program

variable {α : Type} {turns : Nat} {program : Program ν σ α} {world : World Q ν σ}

theorem meets_iff_comes {moment : World Q ν σ} :
    program.Meets turns world moment ↔ ∃ switches, program.Comes turns world switches moment :=
  Run.meets_iff_comes fun _ _ => Run.guardedMeets_iff_comes fun _ _ => Run.loopMeets_iff_comes

theorem front_run {value : α} {after : World Q ν σ} (ran : program.run turns world = some (value, after)) :
    after.front = world.front.plus (program.switchesBegun turns world) :=
  Run.exact_program (Run.exact_guarded (Run.exact_loop turns)) turns program _ _ _ ran

theorem Comes.front {switches : Nat} {moment : World Q ν σ} (came : program.Comes turns world switches moment) :
    moment.front = world.front.plus switches :=
  Run.exact_comes (Run.exact_guarded (Run.exact_loop turns)) (Run.exact_guardedComes (Run.exact_loopComes turns)) _ _ _
    came

end Program

end Testbench
