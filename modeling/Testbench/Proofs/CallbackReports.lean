import Testbench.Bench
import Testbench.Proofs.ChainedAssertions
import Testbench.Proofs.TimeoutTimers

/-! What a hub reports of its callbacks is read back from the capture that was hooked. While nobody else writes, the
capture holds the reports of the callbacks that failed, one after the other, and the assertions take them out again. -/

namespace Testbench

open LawfulQueue (armed)

structure FailedCallback where
  label : String
  error : HubError
deriving DecidableEq

def Call.failure? : Call → Option FailedCallback
  | ⟨label, .error (.failed error)⟩ => some ⟨label, error⟩
  | _ => none

/-- The callbacks that failed. One that succeeded is none of them, and neither is one a panic went through. -/
def failures (calls : List Call) : List FailedCallback := calls.filterMap Call.failure?

namespace FailedCallback

def report (failure : FailedCallback) : String :=
  Traceback.ofCallback failure.label failure.error.kindName failure.error.value

def message (failure : FailedCallback) : String := failure.label ++ " failed with " ++ failure.error.kindName

def reports : List FailedCallback → String
  | [] => ""
  | failure :: later => failure.report ++ reports later

theorem reports_append (first later : List FailedCallback) :
    reports (first ++ later) = reports first ++ reports later := by
  induction first with
  | nil => rw [List.nil_append, reports, String.empty_append]
  | cons failure first ih => rw [List.cons_append, reports, reports, ih, String.append_assoc]

end FailedCallback

open FailedCallback (reports reports_append)

/-- Nothing is written, hooked, released or consumed. -/
def Diagnostics.Request.Quiet {α : Type} : Diagnostics.Request α → Prop
  | .isCaptured | .create .. | .isHooked _ | .recorded _ => True
  | _ => False

theorem Diagnostics.made_write (diagnostics : Diagnostics) (text : String) :
    (diagnostics.write text).made = diagnostics.made := by
  unfold write
  split
  · rfl
  · dsimp only
    split <;> rfl

namespace Run

variable {ν σ : Type} {Q : Type 1}

def Quiet {α : Type} : Request ν σ α → Prop
  | .diagnostics request => request.Quiet
  | _ => True

/-- The timer, if it runs a callback, runs a quiet one. -/
def QuietAction : Action ν σ → Prop
  | .call _ callback => Program.Asks Quiet callback
  | _ => True

variable [TimerQueue (Action ν σ) Q] [LawfulQueue Q]

/-- The capture has recorded the text, and nobody but the hub is going to write. -/
structure Reporting (id : CaptureId) (text : String) (world : World Q ν σ) : Prop where
  recorded : World.Recorded world
  made : id.index < world.diagnostics.made
  recording : world.diagnostics.Recording id text
  quiet : ∀ timer ∈ armed world.hub.queue, QuietAction timer.2

/-- The capture is given the reports of the callbacks that failed. -/
def Reports (id : CaptureId) : Passage Q ν σ := fun calls world after =>
  ∀ text, Reporting id text world → Reporting id (text ++ reports (failures calls)) after

section

variable {id : CaptureId} {text : String} {world after : World Q ν σ}

namespace Reporting

theorem keep (reporting : Reporting id text world) (recorded : World.Recorded after)
    (diagnostics : after.diagnostics = world.diagnostics)
    (quiet : ∀ timer ∈ armed after.hub.queue, timer ∈ armed world.hub.queue ∨ QuietAction timer.2) :
    Reporting id text after where
  recorded := recorded
  made := diagnostics ▸ reporting.made
  recording := diagnostics ▸ reporting.recording
  quiet timer member := (quiet timer member).elim (reporting.quiet timer) fun quiet => quiet

/-- Neither the timers nor the diagnostics change. -/
theorem past (reporting : Reporting id text world) (recorded : World.Recorded after)
    (queue : after.hub.queue = world.hub.queue)
    (diagnostics : after.diagnostics = world.diagnostics) : Reporting id text after :=
  reporting.keep recorded diagnostics fun _ member => .inl (queue ▸ member)

theorem aside (reporting : Reporting id text world) (clock : after.clock = world.clock)
    (queue : after.hub.queue = world.hub.queue) (now : after.hub.now = world.hub.now)
    (numbers : after.hub.nextTimer = world.hub.nextTimer) (timers : after.timers = world.timers)
    (journal : after.hub.journal = world.hub.journal) (diagnostics : after.diagnostics = world.diagnostics) :
    Reporting id text after :=
  reporting.past (reporting.recorded.step (.aside clock queue now numbers timers journal)) queue diagnostics

theorem schedule (reporting : Reporting id text world) (delay : Nat) {action : Action ν σ}
    (quiet : QuietAction action) : Reporting id text (world.schedule delay action).2 := by
  have recorded := reporting.recorded.schedule delay action
  refine reporting.keep recorded ?_ fun timer member => ?_
  · unfold World.schedule
    dsimp only
    split <;> rfl
  · obtain before | ⟨-, same⟩ := World.mem_armed_schedule reporting.recorded.sound delay action timer member
    · exact .inl before
    · exact .inr (same ▸ quiet)

theorem cancel (reporting : Reporting id text world) (timer : Nat) : Reporting id text (world.cancel timer).2 := by
  refine reporting.keep (reporting.recorded.cancel timer) ?_ fun held member => .inl ?_
  · unfold World.cancel
    split <;> rfl
  · unfold World.cancel at member
    split at member
    · exact member
    next dropping =>
      obtain ⟨-, -, onto⟩ := LawfulQueue.cancel_some reporting.recorded.sound dropping
      exact (List.mem_filter.mp (onto.mem_iff.mp member)).1

theorem fire (reporting : Reporting id text world) {alarm : Alarm} {action : Action ν σ}
    (found : world.takeNext = (some (alarm, action), after)) :
    Reporting id text (after.arrive alarm) ∧ QuietAction action := by
  obtain ⟨-, onto, -⟩ := World.takeNext_some reporting.recorded.sound found
  have recorded := reporting.recorded.fire found
  obtain ⟨-, rfl⟩ := Prod.mk.inj found
  refine ⟨reporting.keep recorded rfl fun timer member => .inl ?_, ?_⟩
  · exact onto.mem_iff.mpr (List.mem_cons_of_mem _ member)
  · exact reporting.quiet _ (onto.mem_iff.mpr (List.mem_cons_self ..))

theorem diagnostics {α : Type} (reporting : Reporting id text world) {request : Diagnostics.Request α}
    (quiet : request.Quiet) : Reporting id text (world.onDiagnostics request).2 := by
  obtain ⟨recorded, made, recording, callbacks⟩ := reporting
  have recorded : World.Recorded (world.onDiagnostics request).2 := recorded.step (.aside rfl rfl rfl rfl rfl rfl)
  cases request with
  | create config echo =>
    refine ⟨recorded, Nat.lt_succ_of_lt made, ?_, callbacks⟩
    have different : id ≠ ⟨world.diagnostics.made⟩ := fun same => Nat.ne_of_lt made (congrArg CaptureId.index same)
    have same : (world.onDiagnostics (.create config echo)).2.diagnostics.capture id = world.diagnostics.capture id :=
      (Diagnostics.capture_setCapture world.diagnostics _ id _).trans (if_neg different)
    exact ⟨same ▸ recording.quiet, recording.newest, same ▸ recording.holds⟩
  | isCaptured | isHooked | recorded => exact ⟨recorded, made, recording, callbacks⟩
  | _ => cases quiet

theorem report (reporting : Reporting id text world) (failure : FailedCallback) :
    Reporting id (text ++ failure.report) (world.reportFailure failure.label failure.error) where
  recorded := reporting.recorded.steps (world.reportFailure_steps failure.label failure.error)
  made := by
    have made : id.index < (world.diagnostics.write failure.report).made := by
      rw [Diagnostics.made_write]
      exact reporting.made
    exact made
  recording := reporting.recording.write failure.report
  quiet := reporting.quiet

end Reporting

theorem Reports.of_keeps (keeps : ∀ text, Reporting id text world → Reporting id text after) :
    Reports id [] world after := by
  intro text reporting
  rw [failures, List.filterMap_nil, reports, String.append_empty]
  exact keeps text reporting

theorem carries_reports (id : CaptureId) : Carries (Reports id : Passage Q ν σ) := by
  refine carries_of_timers ?_ ?_ ?_ ?_ ?_
  · exact fun world => .of_keeps fun _ reporting => reporting
  · intro world mid after calls later first second text reporting
    have reports := second _ (first text reporting)
    rwa [String.append_assoc, ← reports_append, failures, failures, ← List.filterMap_append] at reports
  · exact fun world delay signal => .of_keeps fun _ reporting => reporting.schedule delay (by cases signal <;> trivial)
  · exact fun world timer => .of_keeps fun _ reporting => reporting.cancel timer
  · intro world timers made
    refine .of_keeps fun _ reporting => reporting.past ?_ rfl rfl
    exact reporting.recorded.keep rfl rfl (Nat.le_refl _) rfl rfl rfl

theorem signs_reports (id : CaptureId) : Signs (Reports id : Passage Q ν σ) where
  addEventWaiter _ _ := .of_keeps fun _ reporting => reporting.aside rfl rfl rfl rfl rfl rfl rfl
  removeEventWaiter _ _ := .of_keeps fun _ reporting => reporting.aside rfl rfl rfl rfl rfl rfl rfl
  addResultWaiter _ _ := .of_keeps fun _ reporting => reporting.aside rfl rfl rfl rfl rfl rfl rfl
  removeResultWaiter _ _ := .of_keeps fun _ reporting => reporting.aside rfl rfl rfl rfl rfl rfl rfl

/-- Requests for diagnostics apart, what a task asks for does not concern the capture. -/
theorem reports_answer (id : CaptureId) {α : Type} {turns : Nat} {switch : Switch Q ν σ} {request : Request ν σ α}
    (quiet : Quiet request) (other : request.ofTimers = false) {value : α}
    (answered : answer turns switch request world = some (value, after)) : Reports id [] world after := by
  refine .of_keeps fun text reporting => ?_
  cases request with
  | switch | sleep | wait | get | newTimeout | startTimeout | cancelTimeout => cases other
  | burn nanos => cases answered; exact reporting.past (reporting.recorded.step (.burn world nanos)) rfl rfl
  | hub request =>
    have recorded := reporting.recorded.steps (world.onHub_steps request)
    cases request with
    | schedule | cancel => cases other
    | collect =>
      cases answered
      refine reporting.keep recorded rfl fun timer member => .inl ?_
      exact (LawfulQueue.armed_collect reporting.recorded.sound).mem_iff.mp member
    | _ => cases answered; exact reporting.past recorded rfl rfl
  | diagnostics request =>
    cases answered
    exact reporting.diagnostics quiet
  | newCase case policy config =>
    cases answered
    have created : Reporting id text (world.onDiagnostics (.create config .console)).2 := reporting.diagnostics trivial
    exact created.aside rfl rfl rfl rfl rfl rfl rfl
  | setEvent event =>
    cases answered
    obtain ⟨queue, same⟩ : (world.setEvent event).hub.queue = world.hub.queue ∧
        (world.setEvent event).diagnostics = world.diagnostics := by
      unfold World.setEvent
      dsimp only
      split <;> exact ⟨rfl, rfl⟩
    exact reporting.past (reporting.recorded.steps (world.setEvent_steps event)) queue same
  | complete result value =>
    cases answered
    obtain ⟨queue, same⟩ : (world.complete result value).hub.queue = world.hub.queue ∧
        (world.complete result value).diagnostics = world.diagnostics := by
      unfold World.complete
      dsimp only
      split <;> exact ⟨rfl, rfl⟩
    exact reporting.past (reporting.recorded.steps (world.complete_steps result value)) queue same
  | setUpCase case =>
    cases answered
    have looked := reporting.recorded.step (.look world)
    exact reporting.past (looked.step (.aside rfl rfl rfl rfl rfl rfl)) rfl rfl
  | _ => cases answered; exact reporting.aside rfl rfl rfl rfl rfl rfl rfl

theorem reports_beginSwitch (id : CaptureId) (world : World Q ν σ) : Reports id [] world world.beginSwitch := by
  obtain ⟨queue, same⟩ :
      world.beginSwitch.hub.queue = world.hub.queue ∧ world.beginSwitch.diagnostics = world.diagnostics := by
    unfold World.beginSwitch
    split <;> exact ⟨rfl, rfl⟩
  exact .of_keeps fun text reporting => reporting.past (reporting.recorded.steps world.beginSwitch_steps) queue same

theorem carriesCallbacks_reports (id : CaptureId) : CarriesCallbacks (Reports id : Passage Q ν σ) Quiet where
  beginSwitch := reports_beginSwitch id
  call world delay label _ quiet := .of_keeps fun _ reporting => reporting.schedule delay quiet
  wait {turns loop eventId limit world after reply} inside waited := by
    have refused := inside_refused (reports_beginSwitch id) loop
    have carries : Carries (Reports id : Passage Q ν σ) := carries_reports id
    exact (carries.inside.wait refused (signs_reports id).inside turns eventId limit world reply after waited inside).2
  get {turns loop resultId limit world after reply} inside got := by
    have refused := inside_refused (reports_beginSwitch id) loop
    have carries : Carries (Reports id : Passage Q ν σ) := carries_reports id
    exact (carries.inside.get refused (signs_reports id).inside turns resultId limit world reply after got inside).2
  answer quiet other _ _ _ answered := reports_answer id quiet other answered

theorem Reporting.callback (reporting : Reporting id text world) {turns : Nat} {loop : Switch Q ν σ}
    {callback : Callback ν σ} {outcome : Except (Stop HubError) Unit} (quiet : Program.Asks Quiet callback)
    (inside : world.hub.inCallback = true)
    (ran : program turns (guarded loop) callback world = some (outcome, after)) : Reporting id text after := by
  have reported := (carries_reports id).callback (carriesCallbacks_reports id) quiet inside ran text reporting
  rwa [failures, List.filterMap_nil, reports, String.append_empty] at reported

/-- A turn that runs a callback adds its report if it fails, and any other turn adds nothing. -/
theorem reports_turn (id : CaptureId) (turns : Nat) (world : World Q ν σ) (taken : Turn Q ν σ)
    (ran : turn turns world = some taken) : Reports id (turnCalls turns world) world taken.world := by
  unfold turn at ran
  unfold turnCalls
  split at ran
  next woken =>
    cases ran
    rw [if_pos woken]
    exact .of_keeps fun _ reporting => reporting.aside rfl rfl rfl rfl rfl rfl rfl
  next unwoken =>
    rw [if_neg unwoken]
    split at ran
    next rest found =>
      cases ran
      simp only [found]
      refine .of_keeps fun _ reporting => ?_
      obtain ⟨-, -, still⟩ := World.takeNext_none reporting.recorded.sound found
      have nothing (timer : Alarm × Action ν σ) : timer ∉ armed rest.hub.queue := by simp [still]
      have recorded := reporting.recorded.step (.runOut found)
      obtain ⟨-, rfl⟩ := Prod.mk.inj found
      exact reporting.keep recorded rfl fun timer member => absurd member (nothing timer)
    next alarm action rest found =>
      simp only [found]
      cases action with
      | wake =>
        cases ran
        exact .of_keeps fun _ reporting => (reporting.fire found).1.aside rfl rfl rfl rfl rfl rfl rfl
      | raise error =>
        cases ran
        exact .of_keeps fun _ reporting => (reporting.fire found).1
      | call label callback =>
        obtain ⟨⟨outcome, after⟩, called, rfl⟩ := Option.map_eq_some_iff.mp ran
        simp only [called]
        intro text reporting
        obtain ⟨fired, quiet⟩ := reporting.fire found
        have begun : Reporting id text ((rest.arrive alarm).setInCallback true) :=
          fired.aside rfl rfl rfl rfl rfl rfl rfl
        have left : Reporting id text (after.setInCallback false) :=
          (begun.callback quiet rfl called).aside rfl rfl rfl rfl rfl rfl rfl
        rcases outcome with (error | panic) | _
        · have reported := left.report ⟨label, error⟩
          rwa [← String.append_empty (s := FailedCallback.report _)] at reported
        · rwa [← String.append_empty (s := text)] at left
        · rwa [← String.append_empty (s := text)] at left

theorem reports_program (id : CaptureId) (turns : Nat) {α : Type} (program : Program ν σ α)
    (quiet : program.Asks Quiet) : Along (Reports id : Passage Q ν σ) (program.calls turns) (program.run turns) := by
  have carries : Carries (Reports id : Passage Q ν σ) := carries_reports id
  have signs : Signs (Reports id : Passage Q ν σ) := signs_reports id
  have switches : Along (Reports id : Passage Q ν σ) (guardedCalls (loopCalls turns)) (Run.switch turns) :=
    carries.guarded (reports_beginSwitch id) (carries.loop (fun turns _ => reports_turn id turns) turns)
  refine carries.program turns (fun request quiet => ?_)
    (fun world delay label _ quiet => (carriesCallbacks_reports id).call world delay label quiet) program quiet
  exact carries.answer switches turns (carries.wait switches signs turns) (carries.get switches signs turns) request
    fun other _ _ _ answered => reports_answer id quiet other answered

end

end Run

/-- The kind of the error is a name, and neither label nor value is longer than a line. -/
structure FailedCallback.Plain (failure : FailedCallback) : Prop where
  named : ∃ last, Traceback.Named failure.error.kindName.toList last
  value : '\n' ∉ failure.error.value.toList
  label : '\n' ∉ failure.label.toList

namespace Diagnostics

variable {id : CaptureId} {text rest : String} {now : Diagnostics} {failure : FailedCallback}

/-- The assertions for a failed callback succeed: the one for its report, and the one for the message after it. If the
callback tried to block, the assertion for both at once does as well. -/
structure ReadsBack (id : CaptureId) (failure : FailedCallback) (now next : Diagnostics) : Prop where
  report : ∃ reported,
    now.handle (.assertTraceback id failure.error.kindName (some failure.error.value)) = (.ok (), reported) ∧
    reported.handle (.assertMessage id failure.message) = (.ok (some .exact), next)
  blocked : failure.error = .blockingInCallback → now.handle (.assertBlocked id (some failure.message)) = (.ok (), next)

/-- The assertions for the failed callbacks succeed in turn. -/
inductive AllReadBack (id : CaptureId) : List FailedCallback → Diagnostics → Diagnostics → Prop where
  | none {now : Diagnostics} : AllReadBack id [] now now
  | more {failure : FailedCallback} {later : List FailedCallback} {now next after : Diagnostics}
      (first : ReadsBack id failure now next) (others : AllReadBack id later next after) :
      AllReadBack id (failure :: later) now after

/-- A name is no message's last newline. -/
theorem message_ending (plain : failure.Plain) : failure.message.toList.getLast? ≠ some '\n' := by
  obtain ⟨last, named⟩ := plain.named
  obtain ⟨c, name, shown, -⟩ := named.head
  intro ends
  have member : '\n' ∈ failure.error.kindName.toList := by
    rw [FailedCallback.message, String.toList_append, List.getLast?_append_of_ne_nil _
      (shown ▸ List.cons_ne_nil c name)] at ends
    exact List.mem_of_getLast? ends
  have inName := named.inName '\n' member
  revert inName
  unfold Traceback.InName
  decide

theorem frame_plain (plain : failure.Plain) :
    ∀ frame ∈ ["File \"<hub>\", in " ++ failure.label], '\n' ∉ frame.toList := by
  intro frame member
  obtain rfl := List.mem_singleton.mp member
  rw [String.toList_append, List.mem_append, not_or]
  exact ⟨by decide, plain.label⟩

theorem Records.readsBack (records : Records id (failure.report ++ rest) now) (plain : failure.Plain) :
    ∃ next, ReadsBack id failure now next ∧ Records id rest next := by
  obtain ⟨last, named⟩ := plain.named
  let report : Report := {
    frames := ["File \"<hub>\", in " ++ failure.label], kind := failure.error.kindName, last := String.ofList last
    value := failure.error.value, asked := failure.error.kindName, plainFrames := frame_plain plain
    named := by rwa [String.toList_ofList]
    plainValue := plain.value, names := .inl rfl }
  let message : Message := { text := failure.message, ending := message_ending plain }
  have shape : failure.report ++ rest = (Item.report report).written ++ ((Item.message message).written ++ rest) := by
    simp only [FailedCallback.report, Traceback.ofCallback, Item.written, Report.written, Message.written,
      FailedCallback.message, String.append_assoc, report, message]
  rw [shape] at records
  obtain ⟨reported, asserted, left⟩ := records.eats
  obtain ⟨next, told, remains⟩ := left.eats
  refine ⟨next, ⟨⟨reported, asserted, told⟩, fun isBlocked => ?_⟩, remains⟩
  have traced : now.assertTraceback id failure.error.kindName (some failure.error.value) = (.ok (), reported) :=
    asserted
  have said : reported.assertMessage id failure.message = (.ok (some .exact), next) := told
  rw [isBlocked] at traced
  change now.assertTraceback id HubError.blockingInCallback.kindName (some HubError.blockingText) = _ at traced
  simp only [handle, assertBlocked, traced, said]
  rfl

theorem Records.allReadBack {failed : List FailedCallback} (records : Records id (reports failed ++ rest) now)
    (plain : ∀ failure ∈ failed, failure.Plain) : ∃ last, AllReadBack id failed now last ∧ Records id rest last := by
  induction failed generalizing now with
  | nil => exact ⟨now, .none, by rwa [reports, String.empty_append] at records⟩
  | cons failure later ih =>
    obtain ⟨first, others⟩ := List.forall_mem_cons.mp plain
    rw [reports, String.append_assoc] at records
    obtain ⟨next, readsBack, left⟩ := records.readsBack first
    obtain ⟨last, rest, remains⟩ := ih left others
    exact ⟨last, .more readsBack rest, remains⟩

theorem Records.assertNothing (records : Records id "" now) : (now.handle (.assertNothing id)).1 = .ok () := by
  have recorded : ((now.unhook id).capture id).recorded? = some "" := records.recorded
  simp only [handle, Diagnostics.assertNothing, records.quiet, Bool.false_eq_true, if_false, recorded]

theorem Recording.unhooked (recording : Recording id text now) : Records id text (now.handle (.unhook id)).2 := by
  have moved := unhook_moved recording.quiet recording.holds
  have quiet : ((now.unhook id).capture id).config.verbose = false :=
    (congrArg Config.verbose (moved.config id)).trans recording.quiet
  refine @records_captured _ _ _ ((now.unhook id).capture id) quiet ?_
  rw [← moved.own]
  rfl

end Diagnostics

/-- Whatever ran under the capture, the assertions for the callbacks that failed, in the order they fired, take all
that it holds. -/
theorem Program.callback_failures_read_back {ν σ α β : Type} (front : Front) (memory : σ) (past : Program ν σ β)
    (pastTurns : Nat) (world : Bench ν σ) (reached : past.Meets pastTurns (Bench.fresh front memory) world)
    (id : CaptureId) (made : id.index < world.diagnostics.made) (hooked : world.diagnostics.Recording id "")
    (armedBefore : ∀ timer ∈ world.hub.queue.armed, Run.QuietAction timer.2) (turns : Nat) (program : Program ν σ α)
    (quiet : program.Asks Run.Quiet) (value : α) (after : Bench ν σ) (ran : program.run turns world = some (value, after))
    (plain : ∀ failure ∈ failures (program.calls turns world), failure.Plain) :
    ∃ last, Diagnostics.AllReadBack id (failures (program.calls turns world))
      (after.diagnostics.handle (.unhook id)).2 last ∧
      (last.handle (.assertNothing id)).1 = .ok () := by
  have recorded : World.Recorded world := (World.Recorded.fresh front memory).steps (Program.meets_steps reached)
  have reporting : Run.Reporting id "" world := ⟨recorded, made, hooked, armedBefore⟩
  have reported := Run.reports_program id turns program quiet world value after ran "" reporting
  have records := reported.recording.unhooked
  rw [String.empty_append, ← String.append_empty (s := reports _)] at records
  obtain ⟨last, readBack, left⟩ := records.allReadBack plain
  exact ⟨last, readBack, left.assertNothing⟩

/-- A capture is made and hooked. -/
def hooking : Program Unit Unit Unit := do
  let id ← Program.ask (.diagnostics (.create {} .console))
  Program.ask (.diagnostics (.hook id))

/-- The first callback to fire fails, the second does not, and the third tries to block. -/
def losing : Program Unit Unit (Except (Stop HubError) Unit) := do
  let _ ← Program.scheduleCall 3 "blocker" (Program.ask .switch)
  let _ ← Program.scheduleCall 1 "loser" (Task.fail (.failed "pkg.Lost" "gone"))
  let _ ← Program.scheduleCall 2 "helper" (pure (.ok ()))
  Program.ask .switch

theorem loser_and_blocker_read_back :
    let world : Bench Unit Unit :=
      { Bench.fresh .direct () with diagnostics := (({} : Diagnostics).create {} .console).2.hook ⟨0⟩ }
    let failed : List FailedCallback := [⟨"loser", .failed "pkg.Lost" "gone"⟩, ⟨"blocker", .blockingInCallback⟩]
    failures (losing.calls 5 world) = failed ∧ ∃ value after, losing.run 5 world = some (value, after) ∧
      ∃ last, Diagnostics.AllReadBack ⟨0⟩ failed (after.diagnostics.handle (.unhook ⟨0⟩)).2 last ∧
        (last.handle (.assertNothing ⟨0⟩)).1 = .ok () := by
  intro world failed
  have hooks : hooking.run 1 (Bench.fresh .direct ()) = some ((), world) := rfl
  have called : failures (losing.calls 5 world) = failed := by decide +kernel
  have finishes : (losing.run 5 world).isSome = true := by decide +kernel
  obtain ⟨⟨value, after⟩, ran⟩ := Option.isSome_iff_exists.mp finishes
  have plain : ∀ failure ∈ failed, failure.Plain := by
    refine List.forall_mem_cons.mpr ⟨⟨⟨"Lost".toList, ?_⟩, by decide, by decide⟩,
      List.forall_mem_singleton.mpr ⟨⟨"AssertionError".toList, ?_⟩, by decide, by decide⟩⟩
    · exact .dot (show Traceback.IsWord "pkg".toList by decide) (.word (by decide))
    · exact .word (by decide)
  have quiet : losing.Asks Run.Quiet :=
    ⟨⟨trivial, fun _ => trivial⟩, fun _ => ⟨trivial, fun _ => ⟨trivial, fun _ => ⟨trivial, fun _ => trivial⟩⟩⟩⟩
  have quietCapture : ((({} : Diagnostics).create {} .console).2.capture ⟨0⟩).config.verbose = false := by decide
  have hooked : world.diagnostics.Recording ⟨0⟩ "" := Diagnostics.recording_hook quietCapture
  refine ⟨called, value, after, ran, ?_⟩
  rw [← called] at plain ⊢
  exact Program.callback_failures_read_back .direct () hooking 1 world (Program.meets_end hooks) ⟨0⟩ (by decide)
    hooked (fun timer member => by cases member) 5 losing quiet value after ran plain

end Testbench
