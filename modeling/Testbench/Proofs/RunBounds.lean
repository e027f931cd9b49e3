import Mathlib.Data.Nat.Find
import Testbench.Proofs.WaitAnswers

/-! What the bound of a run means. It cuts a run short, and has no other say in it: what a run comes to in some turns, it
comes to in more. -/

namespace Testbench

variable {ν σ : Type} {Q : Type 1} {α : Type}

namespace Run

/-- Whatever the first comes to, the second does. -/
def Within (less more : Run Q ν σ α) : Prop := ∀ world result, less world = some result → more world = some result

/-- It takes a number of turns, and comes to this. -/
def ComesTo (run : Nat → Run Q ν σ α) (world : World Q ν σ) (result : α × World Q ν σ) : Prop :=
  ∃ needed, ∀ turns, run turns world = if needed ≤ turns then some result else none

section

variable {run : Nat → Run Q ν σ α} {world : World Q ν σ} {result : α × World Q ν σ}

theorem comesTo_of_within (within : ∀ {fewer turns}, fewer ≤ turns → Within (run fewer) (run turns)) {turns : Nat}
    (ran : run turns world = some result) : ComesTo run world result := by
  classical
  have enough : ∃ turns, run turns world = some result := ⟨turns, ran⟩
  refine ⟨Nat.find enough, fun turns => ?_⟩
  split
  next sufficient => exact within sufficient world result (Nat.find_spec enough)
  next short =>
    refine Option.eq_none_iff_forall_ne_some.mpr fun other comes => short (Nat.find_le ?_)
    have later := within (Nat.le_max_left turns (Nat.find enough)) world other comes
    rw [within (Nat.le_max_right turns (Nat.find enough)) world result (Nat.find_spec enough)] at later
    rwa [Option.some.inj later]

theorem ComesTo.unique (comes : ComesTo run world result) (turns : Nat) {other : α × World Q ν σ}
    (ran : run turns world = some other) : other = result := by
  obtain ⟨needed, runs⟩ := comes
  rw [runs turns] at ran
  split at ran
  · exact (Option.some.inj ran).symm
  · cases ran

end

section

variable [TimerQueue (Action ν σ) Q] {less more : Switch Q ν σ} {left right turns : Nat}

omit [TimerQueue (Action ν σ) Q] in
theorem untilReady_eq (switch : Switch Q ν σ) (id : ResultId) (left : Nat) (world : World Q ν σ) :
    untilReady switch id left world = (untilPresent switch (.result id) left world).bind fun
      | (.error stop, after) => some (.error stop, after)
      | (.ok (), after) => (after.result id).value.map fun value => (value.mapError .failed, after) := by
  induction left generalizing world with
  | zero => rfl
  | succ left ih =>
    simp only [untilReady, untilPresent]
    generalize switch world = switched
    rcases switched with _ | ⟨stop | ⟨⟩, after⟩
    · rfl
    · rfl
    · cases ready : (after.result id).value with
      | none => simp [World.present, AsyncResult.isReady, ready, ih]
      | some value => simp [World.present, AsyncResult.isReady, ready]

omit [TimerQueue (Action ν σ) Q] in
theorem within_untilPresent (within : Within less more) (le : left ≤ right) (watched : Watched) :
    Within (untilPresent less watched left) (untilPresent more watched right) := by
  intro world result ran
  induction left generalizing right world with
  | zero => cases ran
  | succ left ih =>
    obtain ⟨right, rfl⟩ := Nat.exists_eq_succ_of_ne_zero (Nat.ne_zero_of_lt le)
    simp only [untilPresent] at ran ⊢
    split at ran
    · cases ran
    next switched => rw [within _ _ switched]; exact ran
    next switched =>
      rw [within _ _ switched]
      dsimp only
      split at ran
      next present => rw [if_pos present]; exact ran
      next absent => rw [if_neg absent]; exact ih (Nat.le_of_succ_le_succ le) _ ran

theorem within_sleep (within : Within less more) (delay : Nat) : Within (sleep less delay) (sleep more delay) := by
  intro world result ran
  unfold sleep at ran ⊢
  split at ran
  next answered => exact ran
  next timer armed answered =>
    cases switched : less armed with
    | none => rw [switched] at ran; cases ran
    | some reply => rw [switched] at ran; rw [within _ _ switched]; exact ran

theorem within_wait (within : Within less more) (le : left ≤ right) (id : EventId) (limit : WaitLimit) :
    Within (wait left less id limit) (wait right more id limit) := by
  intro world result ran
  simp only [wait, untilSet_eq] at ran ⊢
  split at ran
  next isSet => rw [if_pos isSet]; exact ran
  next unset =>
    rw [if_neg unset]
    split at ran
    next answered => exact ran
    next timeout started answered =>
      cases switched : untilPresent less (.event id) left (started.addEventWaiter id) with
      | none => rw [switched] at ran; cases ran
      | some reply => rw [switched] at ran; rw [within_untilPresent within le _ _ _ switched]; exact ran

theorem within_get (within : Within less more) (le : left ≤ right) (id : ResultId) (limit : WaitLimit) :
    Within (get left less id limit) (get right more id limit) := by
  intro world result ran
  simp only [get, untilReady_eq] at ran ⊢
  split at ran
  next ready => exact ran
  next nothing =>
    split at ran
    next answered => exact ran
    next timeout started answered =>
      cases switched : untilPresent less (.result id) left (started.addResultWaiter id) with
      | none => rw [switched] at ran; cases ran
      | some reply => rw [switched] at ran; rw [within_untilPresent within le _ _ _ switched]; exact ran

theorem within_answer (within : Within less more) (le : left ≤ right) (request : Request ν σ α) :
    Within (answer left less request) (answer right more request) := by
  cases request with
  | switch => exact within
  | sleep delay => exact within_sleep within delay
  | wait id limit => exact within_wait within le id limit
  | get id limit => exact within_get within le id limit
  | _ => exact fun _ _ ran => ran

theorem within_program (within : Within less more) (le : left ≤ right) (program : Program ν σ α) :
    Within (Run.program left less program) (Run.program right more program) := by
  induction program with
  | pure value => exact fun _ _ ran => ran
  | request asked next ih =>
    intro world result ran
    simp only [Run.program] at ran ⊢
    split at ran
    · cases ran
    next reply after answered =>
      rw [within_answer within le asked _ _ answered]
      exact ih reply after result ran
  | call delay label callback next _ ih => exact fun world => ih _ _

omit [TimerQueue (Action ν σ) Q] in
theorem within_guarded (within : Within less more) : Within (guarded less) (guarded more) := by
  intro world result ran
  unfold guarded at ran ⊢
  dsimp only at ran ⊢
  split at ran
  next refused => rw [if_pos refused]; exact ran
  next admitted => rw [if_neg admitted]; exact within _ _ ran

theorem turn_within (loops : Within (loop left : Switch Q ν σ) (loop right)) (le : left ≤ right) {world : World Q ν σ}
    {taken : Turn Q ν σ} (ran : turn left world = some taken) : turn right world = some taken := by
  unfold turn at ran ⊢
  split at ran
  next woken => rw [if_pos woken]; exact ran
  next unwoken =>
    rw [if_neg unwoken]
    split at ran
    next found => exact ran
    next alarm action rest found =>
      cases action with
      | wake | raise => exact ran
      | call label callback =>
        obtain ⟨ended, called, rfl⟩ := Option.map_eq_some_iff.mp ran
        have later := within_program (within_guarded loops) le callback _ _ called
        exact Option.map_eq_some_iff.mpr ⟨ended, later, rfl⟩

theorem within_loop (le : left ≤ right) : Within (loop left : Switch Q ν σ) (loop right) := by
  induction left generalizing right with
  | zero => intro world result ran; cases ran
  | succ left ih =>
    obtain ⟨right, rfl⟩ := Nat.exists_eq_succ_of_ne_zero (Nat.ne_zero_of_lt le)
    have fewer := Nat.le_of_succ_le_succ le
    intro world result ran
    rw [loop_succ] at ran ⊢
    split at ran
    · cases ran
    next taken => rw [turn_within (ih fewer) fewer taken]; exact ran
    next taken => rw [turn_within (ih fewer) fewer taken]; exact ih fewer _ _ ran

theorem within_switch (le : left ≤ right) : Within (Run.switch left : Switch Q ν σ) (Run.switch right) :=
  within_guarded (within_loop le)

theorem within_ask (le : left ≤ right) (request : Request ν σ α) :
    Within (answer left (Run.switch left : Switch Q ν σ) request) (answer right (Run.switch right) request) :=
  within_answer (within_switch le) le request

theorem within_run (le : left ≤ right) (program : Program ν σ α) :
    Within (program.run left : Run Q ν σ α) (program.run right) :=
  within_program (within_switch le) le program

end

end Run

end Testbench
