import Mathlib.Logic.Hydra
import Testbench.Proofs.GuardTimers
import Testbench.Proofs.RunSwitches

/-! What a hub still has to do. A callback may arm any number of timers when it fires, but the callbacks among them stand
in its own code, so the armed timers are the heads of a hydra: one is cut off, and finitely many grow that are under it.
A wake that is pending is one thing more to do. No hub can do less and less of this for ever. -/

namespace Testbench

open LawfulQueue (armed Sound)
open World (Steps Recorded)

variable {ν σ : Type} {Q : Type 1}

namespace Program

/-- The callback stands in the program, which arms it for some answers at least. -/
def Arms (inner : Callback ν σ) {α : Type} : Program ν σ α → Prop
  | .pure _ => False
  | .request _ next => ∃ reply, (next reply).Arms inner
  | .call _ _ callback next => callback = inner ∨ ∃ reply, (next reply).Arms inner

theorem wellFounded_arms : WellFounded fun inner outer : Callback ν σ => Arms inner outer := by
  have below {α : Type} (program : Program ν σ α) :
      ∀ inner, program.Arms inner → Acc (fun inner outer : Callback ν σ => Arms inner outer) inner := by
    induction program with
    | pure value => exact fun _ impossible => impossible.elim
    | request asked next ih =>
      rintro inner ⟨reply, arms⟩
      exact ih reply inner arms
    | call after label callback next within ih =>
      rintro inner (rfl | ⟨reply, arms⟩)
      · exact ⟨_, within⟩
      · exact ih reply inner arms
  exact ⟨fun outer => ⟨_, below outer⟩⟩

end Program

namespace Action

/-- The first may be armed when the second fires. -/
inductive Under : Action ν σ → Action ν σ → Prop where
  | signal {label : String} {callback : Callback ν σ} (signal : Signal) : Under signal.action (.call label callback)
  | call {name label : String} {inner callback : Callback ν σ} (arms : Program.Arms inner callback) :
      Under (.call name inner) (.call label callback)

theorem wellFounded_under : WellFounded (Under : Action ν σ → Action ν σ → Prop) := by
  have signals (signal : Signal) : Acc Under (signal.action : Action ν σ) := by
    refine ⟨_, fun under below => ?_⟩
    cases signal <;> cases below
  have calls (callback : Callback ν σ) : ∀ label, Acc Under (.call label callback) := by
    induction callback using Program.wellFounded_arms.induction with
    | _ callback ih =>
      refine fun label => ⟨_, fun under below => ?_⟩
      cases below with
      | signal signal => exact signals signal
      | call arms => exact ih _ arms _
  refine ⟨fun action => ?_⟩
  cases action with
  | wake => exact signals .wake
  | raise error => exact signals (.raise error)
  | call label callback => exact calls callback label

end Action

/-- One is cut off, those under it grow, and more may be lost. -/
theorem transGen_cutExpand {α : Type 1} {r : α → α → Prop} {before after grown : Multiset α} {cut : α}
    (under : ∀ action ∈ grown, r action cut) (fewer : after + {cut} ≤ before + grown) :
    Relation.TransGen (Relation.CutExpand r) after before := by
  have losing (lost : Multiset α) : Relation.ReflTransGen (Relation.CutExpand r) after (after + lost) := by
    induction lost using Multiset.induction with
    | empty => rw [add_zero]
    | cons one lost ih =>
      refine ih.tail ((Relation.cutExpand_add_left after).mpr ⟨0, one, by simp, ?_⟩)
      rw [add_zero, ← Multiset.singleton_add, add_comm]
  obtain ⟨lost, parts⟩ := Multiset.le_iff_exists_add.mp fewer
  refine .trans_right (losing lost) (.single ⟨grown, cut, under, ?_⟩)
  rw [parts, add_right_comm]

namespace World

section

variable [TimerQueue (Action ν σ) Q] [LawfulQueue Q] {world after rest : World Q ν σ}

/-- The actions of the armed timers. -/
def pending (world : World Q ν σ) : Multiset (Action ν σ) := ↑((armed world.hub.queue).map (·.2))

/-- Less is left to do. -/
def Lighter (after world : World Q ν σ) : Prop :=
  Prod.Lex (Relation.TransGen (Relation.CutExpand Action.Under)) (· < ·) (after.pending, after.hub.woken)
    (world.pending, world.hub.woken)

theorem wellFounded_lighter : WellFounded (Lighter : World Q ν σ → World Q ν σ → Prop) :=
  InvImage.wf (fun world : World Q ν σ => (world.pending, world.hub.woken))
    (WellFounded.prod_lex Action.wellFounded_under.cutExpand.transGen wellFounded_lt)

theorem Lighter.trans {mid : World Q ν σ} (later : Lighter after mid) (first : Lighter mid world) :
    Lighter after world := by
  unfold Lighter at *
  exact IsTrans.trans _ _ _ later first

theorem Lighter.of_fired {action : Action ν σ} {grown : Multiset (Action ν σ)}
    (fired : world.pending = action ::ₘ rest.pending) (under : ∀ other ∈ grown, other.Under action)
    (fewer : after.pending ≤ rest.pending + grown) : Lighter after world := by
  refine .left _ _ (transGen_cutExpand under ?_)
  rw [fired, ← Multiset.singleton_add, add_assoc, add_comm]
  exact Multiset.add_le_add_left fewer

theorem Lighter.clearWoken (woken : world.hub.woken = true) : Lighter world.clearWoken world :=
  .right _ (by rw [woken]; exact Bool.false_lt_true)

theorem pending_schedule (sound : Sound world.hub.nextTimer world.hub.queue) (delay : Nat) (action : Action ν σ) :
    (world.schedule delay action).2.pending ≤ world.pending + {action} := by
  rcases answered : world.schedule delay action with ⟨_ | timer, after⟩
  · simp only [schedule, updateNow] at answered
    split at answered
    · cases answered; exact Multiset.le_add_right _ _
    · cases answered
  · obtain ⟨-, -, -, onto⟩ := schedule_armed world sound answered
    have more : after.pending = action ::ₘ world.pending := Multiset.coe_eq_coe.mpr (onto.map (·.2))
    rw [more, ← Multiset.singleton_add, add_comm]

theorem pending_cancel (sound : Sound world.hub.nextTimer world.hub.queue) (timer : Nat) :
    (world.cancel timer).2.pending ≤ world.pending := by
  have onto := (armed_cancel sound timer).map (·.2)
  rw [pending, Multiset.coe_eq_coe.mpr onto]
  exact Multiset.coe_le.mpr ((List.filter_sublist.map _).subperm)

theorem pending_takeNext (sound : Sound world.hub.nextTimer world.hub.queue) {alarm : Alarm} {action : Action ν σ}
    (found : world.takeNext = (some (alarm, action), rest)) : world.pending = action ::ₘ rest.pending :=
  Multiset.coe_eq_coe.mpr ((takeNext_some sound found).2.1.map (·.2))

end

end World

namespace Run

section

variable [TimerQueue (Action ν σ) Q] [LawfulQueue Q] {world after : World Q ν σ}

/-- What is armed was armed at the start, or is of the kind. -/
structure Burdened (kind : Action ν σ → Prop) (start : Multiset (Action ν σ)) (world : World Q ν σ) : Prop where
  recorded : Recorded world
  within : ∃ grown, (∀ action ∈ grown, kind action) ∧ world.pending ≤ start + grown

namespace Burdened

variable {kind : Action ν σ → Prop} {start : Multiset (Action ν σ)}

theorem keep (burdened : Burdened kind start world) (steps : Steps world after) {added : Multiset (Action ν σ)}
    (ofKind : ∀ action ∈ added, kind action) (fewer : after.pending ≤ world.pending + added) :
    Burdened kind start after := by
  obtain ⟨recorded, grown, kinds, within⟩ := burdened
  refine ⟨recorded.steps steps, grown + added, fun action member => ?_, ?_⟩
  · exact (Multiset.mem_add.mp member).elim (kinds action) (ofKind action)
  · rw [← add_assoc]
    exact fewer.trans (Multiset.add_le_add_right within)

theorem fewer (burdened : Burdened kind start world) (steps : Steps world after)
    (fewer : after.pending ≤ world.pending) : Burdened kind start after :=
  burdened.keep steps (fun _ (member : _ ∈ 0) => absurd member (Multiset.notMem_zero _)) (by rwa [add_zero])

theorem past (burdened : Burdened kind start world) (steps : Steps world after)
    (queue : after.hub.queue = world.hub.queue) : Burdened kind start after :=
  burdened.fewer steps (by rw [World.pending, World.pending, queue])

theorem schedule (burdened : Burdened kind start world) (delay : Nat) {action : Action ν σ} (ofKind : kind action) :
    Burdened kind start (world.schedule delay action).2 :=
  burdened.keep (.single (.schedule world delay action)) (fun _ member => Multiset.mem_singleton.mp member ▸ ofKind)
    (World.pending_schedule burdened.recorded.sound delay action)

theorem beginSwitch (burdened : Burdened kind start world) : Burdened kind start world.beginSwitch := by
  have steps := world.beginSwitch_steps
  obtain ⟨front, same⟩ := world.beginSwitch_eq
  rw [same] at steps ⊢
  exact burdened.past steps rfl

theorem aside {turns : Nat} {switch : Switch Q ν σ} {β : Type} {request : Request ν σ β}
    (other : request.ofTimers = false) (burdened : Burdened kind start world) {reply : β}
    (answered : answer turns switch request world = some (reply, after)) : Burdened kind start after := by
  have onto := (timers_answer other burdened.recorded.sound answered).1.map (·.2)
  exact burdened.fewer (steps_answer other answered) (Multiset.coe_eq_coe.mpr onto).le

end Burdened

/-- Whatever is armed on the way is of the kind. -/
abbrev StaysBurdened (kind : Action ν σ → Prop) (start : Multiset (Action ν σ)) : Passage Q ν σ := fun _ world after =>
  Burdened kind start world → Burdened kind start after

variable {kind : Action ν σ → Prop} {start : Multiset (Action ν σ)}

theorem carries_burdened (signals : ∀ signal : Signal, kind signal.action) :
    Carries (StaysBurdened kind start : Passage Q ν σ) := by
  refine carries_of_timers (fun _ => id) (fun first second burdened => second (first burdened)) ?_ ?_ ?_
  · exact fun world delay signal burdened => burdened.schedule delay (signals signal)
  · exact fun world timer burdened =>
      burdened.fewer (world.cancel_steps timer) (World.pending_cancel burdened.recorded.sound timer)
  · exact fun world timers made burdened =>
      ⟨burdened.recorded.keep rfl rfl (Nat.le_refl _) rfl rfl rfl, burdened.within⟩

theorem signs_burdened : Signs (StaysBurdened kind start : Passage Q ν σ) :=
  ⟨fun _ _ burdened => burdened.past (.single (.aside rfl rfl rfl rfl rfl rfl)) rfl,
    fun _ _ burdened => burdened.past (.single (.aside rfl rfl rfl rfl rfl rfl)) rfl,
    fun _ _ burdened => burdened.past (.single (.aside rfl rfl rfl rfl rfl rfl)) rfl,
    fun _ _ burdened => burdened.past (.single (.aside rfl rfl rfl rfl rfl rfl)) rfl⟩

/-- In a callback nothing is armed but signals and the callbacks that stand in it. -/
theorem burdened_program (signals : ∀ signal : Signal, kind signal.action) {turns : Nat} {loop : Switch Q ν σ} {α : Type}
    {program : Program ν σ α} (arms : ∀ label callback, program.Arms callback → kind (.call label callback)) {value : α}
    (inside : world.hub.inCallback = true) (burdened : Burdened kind start world)
    (ran : Run.program turns (guarded loop) program world = some (value, after)) : Burdened kind start after := by
  induction program generalizing world with
  | pure value => cases ran; exact burdened
  | request asked next ih =>
    simp only [Run.program] at ran
    split at ran
    · cases ran
    next reply mid answered =>
      have carries : Carries (StaysBurdened kind start : Passage Q ν σ) := carries_burdened signals
      have refused : Along (Inside (StaysBurdened kind start)) (fun _ => []) (guarded loop) :=
        inside_refused (fun _ burdened => burdened.beginSwitch) loop
      have waits := carries.inside.wait refused signs_burdened.inside turns
      have gets := carries.inside.get refused signs_burdened.inside turns
      have passes := carries.inside.answer refused turns waits gets asked
        (fun other _ _ _ answered inside => ⟨(inCallback_answer other answered).trans inside, fun burdened =>
          burdened.aside other answered⟩)
      obtain ⟨still, burdens⟩ := passes world reply mid answered inside
      exact ih reply (fun label callback stands => arms label callback ⟨reply, stands⟩) still (burdens burdened) ran
  | call delay label callback next _ ih =>
    have begun := burdened.schedule delay (arms label callback (.inl rfl))
    exact ih _ (fun label callback stands => arms label callback (.inr ⟨_, stands⟩))
      ((inCallback_schedule world delay _).trans inside) begun ran

/-- When the hub comes back to the head of its loop, less is left to do. -/
theorem lighter_turn (recorded : Recorded world) {turns : Nat} (stayed : turn turns world = some (.stays after)) :
    World.Lighter after world := by
  generalize staying : Turn.stays after = taken at stayed
  cases turn_takes stayed with
  | resumes | runsOut | raises => cases staying
  | wakes unwoken found =>
    cases staying
    have fired := World.pending_takeNext recorded.sound found
    exact .of_fired fired (fun _ (member : _ ∈ 0) => absurd member (Multiset.notMem_zero _)) (by rw [add_zero]; rfl)
  | @calls alarm label callback rest last outcome unwoken found called =>
    have fired := World.pending_takeNext recorded.sound found
    have steps : Steps world ((rest.arrive alarm).setInCallback true) :=
      .tail (.single (.fire found)) (.aside rfl rfl rfl rfl rfl rfl)
    have begun : Burdened (·.Under (.call label callback)) rest.pending ((rest.arrive alarm).setInCallback true) :=
      ⟨recorded.steps steps, 0, fun _ member => absurd member (Multiset.notMem_zero _), by rw [add_zero]; rfl⟩
    obtain ⟨-, grown, under, fewer⟩ := burdened_program .signal (fun _ _ arms => .call arms) rfl begun called
    have same : after.pending = last.pending := by
      rcases outcome with (error | panic) | _ <;> cases staying <;> rfl
    exact .of_fired fired under (same ▸ fewer)

theorem lighter_leaves (recorded : Recorded world) {turns : Nat} {head : World Q ν σ}
    (leaves : Leaves turns world head .resumed after) : World.Lighter after world := by
  generalize resumed : Ending.resumed = ending at leaves
  induction leaves with
  | now left =>
    subst resumed
    generalize leaving : Turn.leaves _ _ = taken at left
    cases turn_takes left with
    | resumes woken => cases leaving; exact .clearWoken woken
    | runsOut | wakes | raises => cases leaving
    | @calls alarm label callback rest last outcome unwoken found called =>
      rcases outcome with (error | panic) | _ <;> cases leaving
  | later stayed _ ih =>
    have steps := turn_steps (loop_steps _) stayed
    exact (ih (recorded.steps steps) resumed).trans (lighter_turn recorded stayed)

/-- When a task comes back from a switch, less is left to do. -/
theorem lighter_switch (recorded : Recorded world) {turns : Nat}
    (resumed : switch turns world = some (.ok (), after)) : World.Lighter after world := by
  have begun := recorded.steps world.beginSwitch_steps
  obtain ⟨front, same⟩ := world.beginSwitch_eq
  simp only [switch, guarded] at resumed
  split at resumed
  · cases resumed
  · obtain ⟨head, ending, leaves, isOk⟩ := loop_eq_some_iff.mp resumed
    cases ending with
    | resumed =>
      have lighter := lighter_leaves begun leaves
      rw [same] at lighter
      exact lighter
    | interrupted | gaveUp | unwound => cases isOk

end

end Run

end Testbench
