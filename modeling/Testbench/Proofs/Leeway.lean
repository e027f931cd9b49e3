import Testbench.Proofs.RunPassages

/-! Programs side by side, which are given answers that may differ within a leeway. Whatever they are given, they ask the
bench for the same, hand over callbacks that go together, and come to related ends. -/

namespace Testbench

variable {ν σ : Type}

/-- Both stopped in the same way, or both came to related values. -/
inductive Handed {ε α : Type} (R : α → α → Prop) : Except ε α → Except ε α → Prop where
  | ok {value other : α} (related : R value other) : Handed R (.ok value) (.ok other)
  | error (stop : ε) : Handed R (.error stop) (.error stop)

theorem Handed.of_eq {ε α : Type} {outcome other : Except ε α} (same : outcome = other) : Handed Eq outcome other := by
  subst same
  cases outcome with
  | ok => exact .ok rfl
  | error stop => exact .error stop

theorem Handed.eq {ε α : Type} {outcome other : Except ε α} (handed : Handed Eq outcome other) : outcome = other := by
  cases handed with
  | ok same => exact congrArg Except.ok same
  | error => rfl

theorem Handed.mapError {ε ε' α : Type} {R : α → α → Prop} {outcome other : Except ε α} (handed : Handed R outcome other)
    (convert : ε → ε') : Handed R (outcome.mapError convert) (other.mapError convert) := by
  cases handed with
  | ok related => exact .ok related
  | error stop => exact .error (convert stop)

/-- How far two runs may differ: the counts they read, and the memories and values that these get into. -/
structure Leeway (ν σ : Type) where
  count : Option Nat → Option Nat → Prop
  memory : σ → σ → Prop
  value : ν → ν → Prop

/-- The same with the runs the other way round. -/
def Leeway.swapped (leeway : Leeway ν σ) : Leeway ν σ :=
  ⟨flip leeway.count, flip leeway.memory, flip leeway.value⟩

/-- The cases differ at most in the count they were set up with. -/
structure SameCase (C : Option Nat → Option Nat → Prop) (case other : TestCase) : Prop where
  count : C case.countAtSetUp other.countAtSetUp
  id : case.id = other.id
  policy : case.policy = other.policy
  switchExpected : case.switchExpected = other.switchExpected
  capture : case.capture = other.capture

structure SameResult (V : ν → ν → Prop) (result other : AsyncResult ν) : Prop where
  waiters : result.waiters = other.waiters
  value : Option.Rel (Handed V) result.value other.value

theorem SameResult.isReady {V : ν → ν → Prop} {result other : AsyncResult ν} (same : SameResult V result other) :
    result.isReady = other.isReady := by
  have values := same.value
  unfold AsyncResult.isReady
  generalize result.value = value, other.value = value' at values ⊢
  cases values <;> rfl

/-- The count, or what comes of it, can be in the request or in its answer. -/
def Request.ofCount {α : Type} : Request ν σ α → Bool
  | .hub .switchCount | .readCase _ | .complete .. | .readResult _ | .get .. | .recall | .store _ => true
  | _ => false

/-- The same is asked for, and the answers are related. Memories and values that are handed on may differ by counts. -/
inductive Request.Matched (leeway : Leeway ν σ) :
    {α : Type} → (α → α → Prop) → Request ν σ α → Request ν σ α → Prop where
  | plain {α : Type} {asked : Request ν σ α} (other : asked.ofCount = false) : Matched leeway Eq asked asked
  | switchCount : Matched leeway leeway.count (.hub .switchCount) (.hub .switchCount)
  | readCase (case : CaseId) : Matched leeway (SameCase leeway.count) (.readCase case) (.readCase case)
  | complete (result : ResultId) {value other : Except HubError ν} (related : Handed leeway.value value other) :
      Matched leeway Eq (.complete result value) (.complete result other)
  | readResult (result : ResultId) : Matched leeway (SameResult leeway.value) (.readResult result) (.readResult result)
  | get (result : ResultId) (limit : WaitLimit) :
      Matched leeway (Handed leeway.value) (.get result limit) (.get result limit)
  | memory : Matched leeway leeway.memory .recall .recall
  | store {memory other : σ} (related : leeway.memory memory other) : Matched leeway Eq (.store memory) (.store other)

theorem Request.Matched.eq_of_timers {leeway : Leeway ν σ} {α : Type} {S : α → α → Prop}
    {asked asked' : Request ν σ α} (matched : asked.Matched leeway S asked') (timers : asked.ofTimers = true) :
    asked' = asked := by
  cases matched with
  | complete | store => cases timers
  | _ => rfl

/-- The programs ask for the same and hand over the same callbacks, whatever counts they have read, and what they return
is related. -/
inductive Program.Unswayed (leeway : Leeway ν σ) :
    {α : Type} → (α → α → Prop) → Program ν σ α → Program ν σ α → Prop where
  | pure {α : Type} {R : α → α → Prop} {value other : α} (related : R value other) :
      Unswayed leeway R (.pure value) (.pure other)
  | request {α β : Type} {R : α → α → Prop} {S : β → β → Prop} {asked asked' : Request ν σ β}
      {next next' : β → Program ν σ α} (matched : asked.Matched leeway S asked')
      (rest : ∀ reply reply', S reply reply' → Unswayed leeway R (next reply) (next' reply')) :
      Unswayed leeway R (.request asked next) (.request asked' next')
  | call {α : Type} {R : α → α → Prop} (after : Nat) (label : String) {callback callback' : Callback ν σ}
      {next next' : Except Panic Nat → Program ν σ α} (called : Unswayed leeway Eq callback callback')
      (rest : ∀ reply, Unswayed leeway R (next reply) (next' reply)) :
      Unswayed leeway R (.call after label callback next) (.call after label callback' next')

/-- A callback may be another program, as long as the two are not swayed apart. -/
inductive SameAction (leeway : Leeway ν σ) : Action ν σ → Action ν σ → Prop where
  | wake : SameAction leeway .wake .wake
  | raise (error : HubError) : SameAction leeway (.raise error) (.raise error)
  | call (label : String) {callback callback' : Callback ν σ} (called : Program.Unswayed leeway Eq callback callback') :
      SameAction leeway (.call label callback) (.call label callback')

/-! Which of the two is looked at first does not matter. -/

theorem Handed.symm {ε α : Type} {R : α → α → Prop} {outcome other : Except ε α} (handed : Handed R outcome other) :
    Handed (flip R) other outcome := by
  cases handed with
  | ok related => exact .ok related
  | error stop => exact .error stop

theorem SameCase.symm {C : Option Nat → Option Nat → Prop} {case other : TestCase} (same : SameCase C case other) :
    SameCase (flip C) other case :=
  ⟨same.count, same.id.symm, same.policy.symm, same.switchExpected.symm, same.capture.symm⟩

theorem SameResult.symm {V : ν → ν → Prop} {result other : AsyncResult ν} (same : SameResult V result other) :
    SameResult (flip V) other result := by
  obtain ⟨value, waiters⟩ := result
  obtain ⟨value', waiters'⟩ := other
  obtain ⟨signed, handed⟩ := same
  refine ⟨signed.symm, ?_⟩
  cases handed with
  | none => exact .none
  | some handed => exact .some handed.symm

theorem Request.Matched.symm {leeway : Leeway ν σ} {α : Type} {S : α → α → Prop}
    {asked asked' : Request ν σ α} (matched : asked.Matched leeway S asked') :
    ∃ S', asked'.Matched leeway.swapped S' asked ∧ ∀ reply reply', S' reply' reply → S reply reply' := by
  cases matched with
  | plain other => exact ⟨Eq, .plain other, fun _ _ => Eq.symm⟩
  | switchCount => exact ⟨_, .switchCount, fun _ _ => id⟩
  | readCase case => exact ⟨_, .readCase case, fun _ _ => SameCase.symm⟩
  | complete result related => exact ⟨Eq, .complete result related.symm, fun _ _ => Eq.symm⟩
  | readResult result => exact ⟨_, .readResult result, fun _ _ => SameResult.symm⟩
  | get result limit => exact ⟨_, .get result limit, fun _ _ => Handed.symm⟩
  | memory => exact ⟨_, .memory, fun _ _ => id⟩
  | store related => exact ⟨Eq, .store related, fun _ _ => Eq.symm⟩

namespace Program.Unswayed

variable {leeway : Leeway ν σ} {α : Type} {R S : α → α → Prop}

theorem mono {program other : Program ν σ α} (unswayed : program.Unswayed leeway S other)
    (implies : ∀ value value', S value value' → R value value') : program.Unswayed leeway R other := by
  induction unswayed with
  | pure related => exact .pure (implies _ _ related)
  | request matched _ ih => exact .request matched fun reply reply' related => ih reply reply' related implies
  | call after label called _ _ ih => exact .call after label called fun reply => ih reply implies

theorem symm {program other : Program ν σ α} (unswayed : program.Unswayed leeway R other) :
    other.Unswayed leeway.swapped (flip R) program := by
  induction unswayed with
  | pure related => exact .pure related
  | request matched _ ih =>
    obtain ⟨S, matched, related⟩ := matched.symm
    exact .request matched fun reply' reply same => ih reply reply' (related reply reply' same)
  | call after label _ _ called ih => exact .call after label (called.mono fun _ _ => Eq.symm) ih

end Program.Unswayed

theorem SameAction.symm {leeway : Leeway ν σ} {action other : Action ν σ} (same : SameAction leeway action other) :
    SameAction leeway.swapped other action := by
  cases same with
  | wake => exact .wake
  | raise error => exact .raise error
  | call label called => exact .call label (called.symm.mono fun _ _ => Eq.symm)

/-! Without any leeway a program goes with itself and with nothing else. -/

/-- Both runs read and remember the same. -/
def Leeway.exact : Leeway ν σ := ⟨Eq, Eq, Eq⟩

theorem Handed.eq_of_rel {ε α : Type} {outcome other : Option (Except ε α)}
    (handed : Option.Rel (Handed Eq) outcome other) : outcome = other := by
  cases handed with
  | none => rfl
  | some handed => exact congrArg some handed.eq

theorem SameCase.eq {case other : TestCase} (same : SameCase Eq case other) : case = other := by
  obtain ⟨id, policy, countAtSetUp, switchExpected, capture⟩ := case
  obtain ⟨rfl, rfl, rfl, rfl, rfl⟩ := same
  rfl

theorem SameResult.eq {result other : AsyncResult ν} (same : SameResult Eq result other) : result = other := by
  obtain ⟨value, waiters⟩ := result
  obtain ⟨value', waiters'⟩ := other
  obtain ⟨rfl, values⟩ := same
  exact congrArg (AsyncResult.mk · waiters) (Handed.eq_of_rel values)

theorem SameResult.of_eq {result other : AsyncResult ν} (same : result = other) : SameResult Eq result other := by
  subst same
  refine ⟨rfl, ?_⟩
  cases result.value with
  | none => exact .none
  | some outcome => exact .some (.of_eq rfl)

theorem Request.matched_exact {α : Type} (asked : Request ν σ α) :
    ∃ S, asked.Matched .exact S asked ∧ ∀ reply reply', S reply reply' → reply = reply' := by
  cases asked with
  | readCase case => exact ⟨_, .readCase case, fun _ _ => SameCase.eq⟩
  | complete result value => exact ⟨_, .complete result (.of_eq rfl), fun _ _ => id⟩
  | readResult result => exact ⟨_, .readResult result, fun _ _ => SameResult.eq⟩
  | get result limit => exact ⟨_, .get result limit, fun _ _ => Handed.eq⟩
  | «recall» => exact ⟨_, .memory, fun _ _ => id⟩
  | store memory => exact ⟨_, .store rfl, fun _ _ => id⟩
  | hub request =>
    cases request with
    | switchCount => exact ⟨_, .switchCount, fun _ _ => id⟩
    | _ => exact ⟨Eq, .plain rfl, fun _ _ => id⟩
  | _ => exact ⟨Eq, .plain rfl, fun _ _ => id⟩

theorem Request.Matched.eq_of_exact {α : Type} {S : α → α → Prop} {asked other : Request ν σ α}
    (matched : asked.Matched .exact S other) : asked = other ∧ ∀ reply, S reply reply := by
  cases matched with
  | plain | switchCount | memory => exact ⟨rfl, fun _ => rfl⟩
  | readCase => exact ⟨rfl, fun _ => ⟨rfl, rfl, rfl, rfl, rfl⟩⟩
  | complete result handed => exact ⟨congrArg (Request.complete result) handed.eq, fun _ => rfl⟩
  | readResult => exact ⟨rfl, fun _ => .of_eq rfl⟩
  | get => exact ⟨rfl, fun _ => .of_eq rfl⟩
  | store related => exact ⟨congrArg Request.store related, fun _ => rfl⟩

theorem Program.unswayed_exact {α : Type} (program : Program ν σ α) : program.Unswayed .exact Eq program := by
  induction program with
  | pure value => exact .pure rfl
  | request asked next ih =>
    obtain ⟨S, matched, same⟩ := asked.matched_exact
    exact .request matched fun reply reply' related => same reply reply' related ▸ ih reply
  | call after label callback next called ih => exact .call after label called ih

theorem Program.Unswayed.eq {α : Type} {R : α → α → Prop} {program other : Program ν σ α}
    (unswayed : program.Unswayed .exact R other) (same : ∀ value value', R value value' → value = value') :
    program = other := by
  induction unswayed with
  | pure related => exact congrArg Program.pure (same _ _ related)
  | request matched _ ih =>
    obtain ⟨rfl, related⟩ := matched.eq_of_exact
    exact congrArg (Program.request _) (funext fun reply => ih reply reply (related reply) same)
  | call after label _ _ called ih =>
    rw [called fun _ _ => id]
    exact congrArg (Program.call after label _) (funext fun reply => ih reply same)

theorem SameAction.refl (action : Action ν σ) : SameAction .exact action action := by
  cases action with
  | wake => exact .wake
  | raise error => exact .raise error
  | call label callback => exact .call label callback.unswayed_exact

theorem SameAction.eq {action other : Action ν σ} (same : SameAction .exact action other) : action = other := by
  cases same with
  | wake | raise => rfl
  | call label called => exact congrArg (Action.call label) (called.eq fun _ _ => id)

end Testbench
