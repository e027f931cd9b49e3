import Testbench.Proofs.DiagnosticsRouting
import Testbench.Proofs.RunInvariants

/-! The captures at every moment of every run. All that a run does to the diagnostics is to have requests handled, and
none of these puts a capture on the stack twice or lets a verbose one capture anything. -/

namespace Testbench

namespace Diagnostics

/-- Nothing is on the stack twice, and no verbose capture has ever captured anything. -/
structure Tidy (diagnostics : Diagnostics) : Prop where
  once : diagnostics.sinks.Nodup
  loud : ∀ id, diagnostics.isVerbose id = true → (diagnostics.capture id).state = .unhooked

theorem tidy_empty : Tidy {} := ⟨List.nodup_nil, fun _ _ => rfl⟩

theorem isVerbose_unhook (diagnostics : Diagnostics) (id other : CaptureId) :
    (diagnostics.unhook id).isVerbose other = diagnostics.isVerbose other := by
  cases loud : diagnostics.isVerbose id with
  | true =>
    have same : diagnostics.unhook id = diagnostics := if_pos (Bool.or_eq_true_iff.mpr (.inl loud))
    rw [same]
  | false =>
    cases shown : (diagnostics.capture id).state with
    | hooked buffer => exact congrArg Config.verbose ((unhook_moved loud shown).config other)
    | unhooked | captured => rw [unhook_idle (by rw [Capture.isHooked, shown])]

namespace Tidy

variable {before after : Diagnostics} {id : CaptureId} (tidy : Tidy before)

include tidy

theorem aside (sinks : after.sinks = before.sinks) (captures : after.captures = before.captures) : Tidy after := by
  have same (id : CaptureId) : after.capture id = before.capture id := by rw [capture, captures, capture]
  refine ⟨sinks ▸ tidy.once, fun id loud => ?_⟩
  rw [isVerbose, same] at loud
  rw [same]
  exact tidy.loud id loud

theorem quiet {state : CaptureState} (shown : (before.capture id).state = state) (captures : state ≠ .unhooked) :
    before.isVerbose id = false :=
  Bool.eq_false_iff.mpr fun loud => captures (shown.symm.trans (tidy.loud id loud))

theorem moved {state : CaptureState} {sinks : List CaptureId} (moved : Moved id state sinks before after)
    (once : sinks.Nodup) (loud : before.isVerbose id = true → state = .unhooked) : Tidy after := by
  refine ⟨moved.sinks ▸ once, fun other isLoud => ?_⟩
  have wasLoud : before.isVerbose other = true := (congrArg Config.verbose (moved.config other)).symm.trans isLoud
  by_cases same : other = id
  · subst same
    exact moved.own.trans (loud wasLoud)
  · exact (moved.others other same).trans (tidy.loud other wasLoud)

theorem write (text : String) : Tidy (before.write text) := by
  unfold Diagnostics.write
  split
  · exact tidy.aside rfl rfl
  next newest _ _ =>
    dsimp only
    split
    next buffer shown =>
      -- The newest capture is hooked, and so it is not verbose.
      have quiet := tidy.quiet shown CaptureState.noConfusion
      have written := moved_setCapture before newest (.hooked (buffer ++ text)) before.sinks
      exact tidy.moved written tidy.once fun loud => Bool.noConfusion (quiet.symm.trans loud)
    · exact tidy

theorem create (config : Config) (echo : EchoTarget) : Tidy (before.create config echo).2 := by
  have captures (id : CaptureId) := capture_setCapture before ⟨before.made⟩ id { config, echo }
  refine ⟨tidy.once, fun id loud => ?_⟩
  change (((before.setCapture ⟨before.made⟩ { config, echo }).capture id).config.verbose) = true at loud
  change ((before.setCapture ⟨before.made⟩ { config, echo }).capture id).state = .unhooked
  rw [captures] at loud ⊢
  split at loud
  next same => rw [if_pos same]
  next other => rw [if_neg other]; exact tidy.loud id loud

theorem hook (id : CaptureId) : Tidy (before.hook id) := by
  cases loud : before.isVerbose id with
  | true =>
    rw [hook_verbose loud]
    exact tidy
  | false =>
    have once : (id :: before.sinks.erase id).Nodup :=
      List.nodup_cons.mpr ⟨tidy.once.not_mem_erase, tidy.once.erase id⟩
    exact tidy.moved (hook_moved loud) once fun isLoud => Bool.noConfusion (loud.symm.trans isLoud)

theorem unhook (id : CaptureId) : Tidy (before.unhook id) := by
  cases shown : (before.capture id).state with
  | hooked buffer =>
    have quiet := tidy.quiet shown CaptureState.noConfusion
    exact tidy.moved (unhook_moved quiet shown) (tidy.once.erase id) fun loud => Bool.noConfusion (quiet.symm.trans loud)
  | unhooked | captured =>
    rw [unhook_idle (by rw [Capture.isHooked, shown])]
    exact tidy

theorem take (id : CaptureId) : Tidy (before.take id).2 :=
  (tidy.unhook id).moved (take_moved before id) (tidy.unhook id).once fun _ => rfl

theorem drop (id : CaptureId) : Tidy (before.drop id) :=
  tidy.moved (drop_moved before id) (tidy.once.erase id) fun _ => rfl

theorem replay (id : CaptureId) : Tidy (before.replay id) := by
  have taken := tidy.take id
  unfold Diagnostics.replay
  split
  next same =>
    rw [same] at taken
    exact taken.aside rfl rfl
  next same => rwa [same] at taken

theorem consume {α : Type} (quiet : before.isVerbose id = false) (text : String)
    (match? : String → Except Failure (Consumed α)) : Tidy (before.consume id text match?).2 := by
  unfold Diagnostics.consume
  split
  · exact tidy
  next consumed _ =>
    have left := moved_setCapture before id (.captured (String.ofList consumed.rest)) before.sinks
    have consumed := tidy.moved left tidy.once fun loud => Bool.noConfusion (quiet.symm.trans loud)
    dsimp only
    unfold echoPiece
    split
    · split <;> exact consumed.aside rfl rfl
    · exact consumed

theorem assertNothing (id : CaptureId) : Tidy (before.assertNothing id).2 := by
  unfold Diagnostics.assertNothing
  split
  · exact tidy
  · dsimp only
    split <;> exact tidy.unhook id

theorem assertTraceback (id : CaptureId) (kind : String) (value : Option String) :
    Tidy (before.assertTraceback id kind value).2 := by
  unfold Diagnostics.assertTraceback
  split
  · exact tidy
  next quiet =>
    dsimp only
    split
    · exact tidy.unhook id
    · exact (tidy.unhook id).consume ((isVerbose_unhook before id id).trans (Bool.eq_false_iff.mpr quiet)) _ _

theorem assertMessage (id : CaptureId) (message : String) : Tidy (before.assertMessage id message).2 := by
  unfold Diagnostics.assertMessage
  split
  · exact tidy
  next quiet =>
    exact (tidy.unhook id).consume ((isVerbose_unhook before id id).trans (Bool.eq_false_iff.mpr quiet)) _ _

theorem assertBlocked (id : CaptureId) (message : Option String) : Tidy (before.assertBlocked id message).2 := by
  have reported := tidy.assertTraceback id HubError.blockingInCallback.kindName (some HubError.blockingText)
  unfold Diagnostics.assertBlocked
  split
  next answered => rwa [answered] at reported
  next answered =>
    rw [answered] at reported
    split
    · exact reported
    · exact reported.assertMessage id _

theorem handle {α : Type} (request : Request α) : Tidy (before.handle request).2 := by
  cases request with
  | write text => exact tidy.write text
  | isCaptured | isHooked | recorded => exact tidy
  | create config echo => exact tidy.create config echo
  | hook id => exact tidy.hook id
  | unhook id => exact tidy.unhook id
  | take id => exact tidy.take id
  | drop id => exact tidy.drop id
  | replay id => exact tidy.replay id
  | assertNothing id => exact tidy.assertNothing id
  | assertTraceback id kind value => exact tidy.assertTraceback id kind value
  | assertMessage id message => exact tidy.assertMessage id message
  | assertBlocked id message => exact tidy.assertBlocked id message

end Tidy

/-- One request was handled. -/
inductive Handled : Diagnostics → Diagnostics → Prop where
  | intro {α : Type} (before : Diagnostics) (request : Request α) : Handled before (before.handle request).2

/-- Requests were handled, one after the other. -/
abbrev Handles : Diagnostics → Diagnostics → Prop := Relation.ReflTransGen Handled

theorem Tidy.handles {before after : Diagnostics} (tidy : Tidy before) (handles : Handles before after) : Tidy after := by
  induction handles with
  | refl => exact tidy
  | tail _ handled ih =>
    cases handled
    exact ih.handle _

/-- What the capture has recorded and nobody has asked for yet. -/
def unconsumed (diagnostics : Diagnostics) (id : CaptureId) : String :=
  match (diagnostics.capture id).state with
  | .unhooked => ""
  | .hooked text | .captured text => text

theorem console_replay (diagnostics : Diagnostics) (id : CaptureId) : (diagnostics.replay id).console =
    (diagnostics.unhook id).console ++ ((diagnostics.unhook id).capture id).recorded?.getD "" := by
  have answered : (diagnostics.take id).1 = ((diagnostics.unhook id).capture id).recorded? := rfl
  have taken := (take_moved diagnostics id).console
  unfold replay
  split
  next text left same =>
    rw [same] at answered taken
    rw [← answered, ← taken]
    rfl
  next left same =>
    rw [same] at answered taken
    rw [← answered, ← taken]
    exact String.append_empty.symm

theorem Tidy.unconsumed_replayed {before : Diagnostics} (tidy : Tidy before) (id : CaptureId) :
    (before.replay id).console = before.console ++ before.unconsumed id := by
  rw [console_replay]
  cases shown : (before.capture id).state with
  | hooked buffer =>
    have moved := unhook_moved (tidy.quiet shown CaptureState.noConfusion) shown
    rw [moved.console, recorded_of_state moved.own, unconsumed, shown]
    rfl
  | unhooked | captured =>
    rw [unhook_idle (by rw [Capture.isHooked, shown]), Capture.recorded?, unconsumed, shown]
    rfl

/-- The capture is off the stack and holds nothing any more, and the console has got a text of its. -/
structure Released (id : CaptureId) (text : String) (before after : Diagnostics) : Prop where
  gone : id ∉ after.sinks
  spent : (after.capture id).state = .unhooked
  console : after.console = before.console ++ text

section

variable {diagnostics : Diagnostics} (tidy : Tidy diagnostics) (id : CaptureId)

include tidy

theorem Tidy.dropped : Released id "" diagnostics (diagnostics.drop id) := by
  have dropped := drop_moved diagnostics id
  refine ⟨?_, dropped.own, dropped.console.trans String.append_empty.symm⟩
  rw [dropped.sinks]
  exact tidy.once.not_mem_erase

theorem Tidy.replayed : Released id (diagnostics.unconsumed id) diagnostics ((diagnostics.replay id).drop id) := by
  have released := (tidy.replay id).dropped id
  refine ⟨released.gone, released.spent, released.console.trans ?_⟩
  rw [String.append_empty, tidy.unconsumed_replayed]

end

end Diagnostics

variable {ν σ : Type} {Q : Type 1} [TimerQueue (Action ν σ) Q]

namespace World

theorem diagnostics_schedule (world : World Q ν σ) (delay : Nat) (action : Action ν σ) :
    (world.schedule delay action).2.diagnostics = world.diagnostics := by
  unfold World.schedule
  dsimp only
  split <;> rfl

theorem diagnostics_cancel (world : World Q ν σ) (timer : Nat) :
    (world.cancel timer).2.diagnostics = world.diagnostics := by
  unfold World.cancel
  split <;> rfl

end World

open Diagnostics (Handles)

/-- All that happens to the diagnostics is that requests are handled. -/
theorem throughout_handles :
    Run.Throughout fun world after : World Q ν σ => Handles world.diagnostics after.diagnostics where
  carries := by
    apply Run.carries_of_timers (fun _ => .refl) (fun first second => first.trans second) _ _ fun _ _ _ => .refl
    · intro world delay signal
      rw [World.diagnostics_schedule]
    · intro world timer
      rw [World.diagnostics_cancel]
  signs := ⟨fun _ _ => .refl, fun _ _ => .refl, fun _ _ => .refl, fun _ _ => .refl⟩
  answer {turns switch α request} other {world after reply} answered := by
    cases request with
    | switch | sleep | wait | get | newTimeout | startTimeout | cancelTimeout => cases other
    | hub request =>
      cases request with
      | schedule | cancel => cases other
      | _ => cases answered; exact .refl
    | setEvent event =>
      cases answered
      obtain ⟨events, woken, same⟩ := world.setEvent_eq event
      rw [same]
    | complete result value =>
      cases answered
      obtain ⟨results, woken, same⟩ := world.complete_eq result value
      rw [same]
    | diagnostics request => cases answered; exact .single (.intro _ request)
    | newCase id policy config => cases answered; exact .single (.intro _ (.create config .console))
    | _ => cases answered; exact .refl
  call world delay label callback := by rw [World.diagnostics_schedule]
  beginSwitch world := by
    obtain ⟨front, same⟩ := world.beginSwitch_eq
    rw [same]
    exact .refl
  wake _ := .refl
  clearWoken _ := .refl
  setInCallback _ _ := .refl
  runOut found := by
    obtain ⟨-, rfl⟩ := Prod.mk.inj found
    exact .refl
  fire found := by
    obtain ⟨-, rfl⟩ := Prod.mk.inj found
    exact .refl
  reportFailure world label error :=
    .single (.intro world.diagnostics (.write (Traceback.ofCallback label error.kindName error.value)))

end Testbench
