import Testbench.Proofs.DiagnosticsHistory
import Testbench.Proofs.LazyQueueLaws

/-! Diagnostics go where they ought to. The captures, whatever the order they are hooked and released in, hold
the texts that were written while they were the newest, and the console holds the others. -/

namespace Testbench

namespace Diagnostics

def Operation.perform (diagnostics : Diagnostics) : Operation → Diagnostics
  | .hook id => (diagnostics.handle (.hook id)).2
  | .unhook id => (diagnostics.handle (.unhook id)).2
  | .take id => (diagnostics.handle (.take id)).2
  | .drop id => (diagnostics.handle (.drop id)).2
  | .write text => (diagnostics.handle (.write text)).2

/-- What the diagnostics are after a history, which has the latest operation first. -/
def after (diagnostics : Diagnostics) : List Operation → Diagnostics
  | [] => diagnostics
  | operation :: earlier => operation.perform (diagnostics.after earlier)

variable {diagnostics : Diagnostics} {id other : CaptureId}

theorem capture_setCapture (diagnostics : Diagnostics) (id other : CaptureId) (capture : Capture) :
    (diagnostics.setCapture id capture).capture other = if other = id then capture else diagnostics.capture other := by
  unfold Diagnostics.capture setCapture
  rw [Registry.get?_set]
  split <;> rfl

/-- One capture has another state, and the stack is another. -/
structure Moved (id : CaptureId) (state : CaptureState) (sinks : List CaptureId) (before after : Diagnostics) : Prop where
  sinks : after.sinks = sinks
  console : after.console = before.console
  config : ∀ other, (after.capture other).config = (before.capture other).config
  own : (after.capture id).state = state
  others : ∀ other, other ≠ id → (after.capture other).state = (before.capture other).state

theorem moved_setCapture (diagnostics : Diagnostics) (id : CaptureId) (state : CaptureState) (sinks : List CaptureId) :
    Moved id state sinks diagnostics
      { diagnostics.setCapture id { diagnostics.capture id with state := state } with sinks := sinks } := by
  have captures (other : CaptureId) := capture_setCapture diagnostics id other { diagnostics.capture id with state := state }
  refine ⟨rfl, rfl, fun other => ?_, ?_, fun other different => ?_⟩
  · apply (congrArg Capture.config (captures other)).trans
    split
    next same => rw [same]
    next => rfl
  · exact (congrArg Capture.state (captures id)).trans (by rw [if_pos rfl])
  · exact (congrArg Capture.state (captures other)).trans (by rw [if_neg different])

theorem hook_moved (quiet : (diagnostics.capture id).config.verbose = false) :
    Moved id (.hooked "") (id :: diagnostics.sinks.erase id) diagnostics (diagnostics.hook id) := by
  have hooks := moved_setCapture diagnostics id (.hooked "") (id :: diagnostics.sinks.erase id)
  simp only [hook, quiet, Bool.false_eq_true, if_false]
  exact hooks

theorem hook_verbose (loud : (diagnostics.capture id).config.verbose = true) : diagnostics.hook id = diagnostics := by
  simp only [hook, loud, if_true]

theorem drop_moved (diagnostics : Diagnostics) (id : CaptureId) :
    Moved id .unhooked (diagnostics.sinks.erase id) diagnostics (diagnostics.drop id) :=
  moved_setCapture diagnostics id .unhooked (diagnostics.sinks.erase id)

theorem unhook_moved (quiet : (diagnostics.capture id).config.verbose = false) {buffer : String}
    (hooked : (diagnostics.capture id).state = .hooked buffer) :
    Moved id (.captured buffer) (diagnostics.sinks.erase id) diagnostics (diagnostics.unhook id) := by
  have releases := moved_setCapture diagnostics id (.captured buffer) (diagnostics.sinks.erase id)
  simp only [unhook, Capture.isHooked, Capture.freeze, quiet, hooked]
  exact releases

theorem unhook_idle (idle : (diagnostics.capture id).isHooked = false) : diagnostics.unhook id = diagnostics := by
  simp [unhook, idle]

theorem take_moved (diagnostics : Diagnostics) (id : CaptureId) :
    Moved id .unhooked (diagnostics.unhook id).sinks (diagnostics.unhook id) (diagnostics.take id).2 :=
  moved_setCapture (diagnostics.unhook id) id .unhooked (diagnostics.unhook id).sinks

theorem Moved.trans {state state' : CaptureState} {sinks sinks' : List CaptureId} {before mid after : Diagnostics}
    (first : Moved id state sinks before mid) (second : Moved id state' sinks' mid after) : Moved id state' sinks' before after where
  sinks := second.sinks
  console := second.console.trans first.console
  config other := (second.config other).trans (first.config other)
  own := second.own
  others other different := (second.others other different).trans (first.others other different)

/-- The texts a place holds. A capture that is not hooked is no such place. -/
def contents (diagnostics : Diagnostics) : Place → Option String
  | .console => some diagnostics.console
  | .buffer id =>
    match (diagnostics.capture id).state with
    | .hooked buffer => some buffer
    | _ => none

theorem contents_buffer {buffer : String} :
    diagnostics.contents (.buffer id) = some buffer ↔ (diagnostics.capture id).state = .hooked buffer := by
  simp only [contents]
  cases (diagnostics.capture id).state <;> simp

/-- A text went into one place, and nowhere else. -/
structure Received (place : Place) (text : String) (before after : Diagnostics) : Prop where
  sinks : after.sinks = before.sinks
  config : ∀ id, (after.capture id).config = (before.capture id).config
  here : ∃ held, before.contents place = some held ∧ after.contents place = some (held ++ text)
  captures : ∀ id, place ≠ .buffer id → (after.capture id).state = (before.capture id).state
  console : place ≠ .console → after.console = before.console

/-- Verbose captures are known from the start. -/
def isVerbose (diagnostics : Diagnostics) (id : CaptureId) : Bool := (diagnostics.capture id).config.verbose

structure Told (initial : Diagnostics) (history : List Operation) (now : Diagnostics) : Prop where
  config : ∀ id, (now.capture id).config = (initial.capture id).config
  sinks : now.sinks = stack initial.isVerbose history
  buffers : ∀ id text, (now.capture id).state = .hooked text ↔ Collected initial.isVerbose history (.buffer id) text
  loud : ∀ id, initial.isVerbose id = true → (now.capture id).state = .unhooked
  console : ∃ text, Collected initial.isVerbose history .console text ∧ now.console = initial.console ++ text

/-- The operation leaves the capture as the history tells. -/
def Moves (initial : Diagnostics) (history : List Operation) (operation : Operation) (id : CaptureId) (now next : Diagnostics) :
    Prop :=
  ∃ state, Moved id state (stack initial.isVerbose (operation :: history)) now next ∧
    (∀ text, state = .hooked text ↔ Collected initial.isVerbose (operation :: history) (.buffer id) text) ∧
    (initial.isVerbose id = true → state = .unhooked)

namespace Told

variable {initial now next : Diagnostics} {history : List Operation} {operation : Operation} {text : String}

theorem verbose_eq (told : Told initial history now) (id : CaptureId) :
    (now.capture id).config.verbose = initial.isVerbose id := by
  rw [told.config id]
  rfl

theorem mem_sinks (told : Told initial history now) (id : CaptureId) :
    id ∈ now.sinks ↔ ∃ text, (now.capture id).state = .hooked text := by
  rw [told.sinks, mem_stack, ← collected_iff_hooked]
  exact exists_congr fun text => (told.buffers id text).symm

private theorem hook_moves (told : Told initial history now) (id : CaptureId) :
    Moves initial history (.hook id) id now (now.hook id) := by
  cases quiet : initial.isVerbose id with
  | true =>
    have unhooked := told.loud id quiet
    have sinks : stack initial.isVerbose (.hook id :: history) = now.sinks := by
      simp only [stack, quiet, if_true, told.sinks]
    rw [hook_verbose ((told.verbose_eq id).trans quiet)]
    refine ⟨.unhooked, ⟨sinks.symm, rfl, fun _ => rfl, unhooked, fun _ _ => rfl⟩, fun text => ?_, fun _ => rfl⟩
    exact iff_of_false CaptureState.noConfusion (collected_released rfl fun _ => quiet)
  | false =>
    have sinks : stack initial.isVerbose (.hook id :: history) = id :: now.sinks.erase id := by
      simp only [stack, quiet, Bool.false_eq_true, if_false, told.sinks]
    refine ⟨.hooked "", sinks ▸ hook_moved ((told.verbose_eq id).trans quiet), fun text => ?_, fun loud => ?_⟩
    · rw [collected_hook quiet, CaptureState.hooked.injEq]
      exact eq_comm
    · exact Bool.noConfusion (quiet.symm.trans loud)

/-- However the capture was, it is off the stack and keeps what it recorded. -/
theorem unhook_spec (told : Told initial history now) (id : CaptureId) :
    ∃ state, Moved id state ((stack initial.isVerbose history).erase id) now (now.unhook id) ∧
      (∀ text, state ≠ .hooked text) ∧ (initial.isVerbose id = true → state = .unhooked) ∧
      ∀ text, (now.capture id).state = .hooked text → state = .captured text := by
  cases shown : (now.capture id).state with
  | hooked buffer =>
    have quiet : initial.isVerbose id = false :=
      Bool.eq_false_iff.mpr fun loud => CaptureState.noConfusion ((told.loud id loud).symm.trans shown)
    have moved := unhook_moved ((told.verbose_eq id).trans quiet) shown
    rw [told.sinks] at moved
    refine ⟨.captured buffer, moved, fun _ => CaptureState.noConfusion, ?_, fun _ same => ?_⟩
    · exact fun loud => Bool.noConfusion (quiet.symm.trans loud)
    · cases same
      rfl
  | unhooked | captured =>
    have idle : (now.capture id).isHooked = false := by rw [Capture.isHooked, shown]
    have absent : id ∉ now.sinks := fun member => by
      obtain ⟨_, hooked⟩ := (told.mem_sinks id).mp member
      cases shown.symm.trans hooked
    have sinks : (stack initial.isVerbose history).erase id = now.sinks := by
      rw [← told.sinks]
      exact List.erase_of_not_mem absent
    rw [unhook_idle idle, sinks]
    refine ⟨_, ⟨rfl, rfl, fun _ => rfl, shown, fun _ _ => rfl⟩, fun _ => CaptureState.noConfusion, fun loud => ?_,
      fun _ => CaptureState.noConfusion⟩
    exact shown.symm.trans (told.loud id loud)

theorem moves (told : Told initial history now) (about : operation.capture? = some id) :
    Moves initial history operation id now (operation.perform now) := by
  cases operation with
  | hook other => cases about; exact told.hook_moves id
  | unhook other =>
    cases about
    obtain ⟨state, moved, settled, loud, -⟩ := told.unhook_spec id
    exact ⟨state, moved, fun text => iff_of_false (settled text) (collected_released rfl Operation.noConfusion), loud⟩
  | take other =>
    cases about
    obtain ⟨state, moved, -, -, -⟩ := told.unhook_spec id
    have taken := moved.trans (take_moved now id)
    rw [moved.sinks] at taken
    refine ⟨.unhooked, taken, fun text => ?_, fun _ => rfl⟩
    exact iff_of_false CaptureState.noConfusion (collected_released rfl Operation.noConfusion)
  | drop other =>
    cases about
    have dropped := drop_moved now id
    rw [told.sinks] at dropped
    refine ⟨.unhooked, dropped, fun text => ?_, fun _ => rfl⟩
    exact iff_of_false CaptureState.noConfusion (collected_released rfl Operation.noConfusion)
  | write text => cases about

theorem write_received (told : Told initial history now) (text : String) :
    Received (topmost now.sinks) text now (now.write text) := by
  have hooked (id : CaptureId) := told.mem_sinks id
  unfold Diagnostics.write
  cases shown : now.sinks with
  | nil =>
    refine ⟨rfl, fun _ => rfl, ⟨now.console, rfl, rfl⟩, fun _ _ => rfl, ?_⟩
    exact fun elsewhere => absurd rfl elsewhere
  | cons newest rest =>
    obtain ⟨buffer, state⟩ := (hooked newest).mp (shown ▸ List.mem_cons_self ..)
    have moved := moved_setCapture now newest (.hooked (buffer ++ text)) now.sinks
    simp only [state]
    refine ⟨rfl, moved.config, ⟨buffer, contents_buffer.mpr state, contents_buffer.mpr moved.own⟩, ?_, fun _ => rfl⟩
    exact fun id elsewhere => moved.others id fun same => elsewhere (congrArg Place.buffer same.symm)

theorem destination (told : Told initial history now) (place : Place) :
    Destination initial.isVerbose history place ↔ place = topmost now.sinks := by
  rw [told.sinks]
  exact destination_iff history place

theorem write (told : Told initial history now) (text : String) : Told initial (.write text :: history) (now.write text) := by
  have received := told.write_received text
  refine ⟨fun id => (received.config id).trans (told.config id), received.sinks.trans told.sinks, fun id collected => ?_,
    fun id loud => ?_, ?_⟩
  · by_cases here : Destination initial.isVerbose history (.buffer id)
    · obtain ⟨held, before, after⟩ := received.here
      rw [← (told.destination _).mp here, contents_buffer] at before after
      rw [collected_here here, after, CaptureState.hooked.injEq]
      constructor
      · exact fun same => ⟨held, (told.buffers id held).mp before, same.symm⟩
      · intro ⟨other, was, same⟩
        have unique := before.symm.trans ((told.buffers id other).mpr was)
        rw [same, CaptureState.hooked.inj unique]
    · have different : topmost now.sinks ≠ .buffer id := fun same => here ((told.destination _).mpr same.symm)
      rw [collected_elsewhere here, received.captures id different]
      exact told.buffers id collected
  · have unhooked := told.loud id loud
    have different : topmost now.sinks ≠ .buffer id := by
      intro same
      obtain ⟨held, before, -⟩ := received.here
      rw [same, contents_buffer] at before
      cases unhooked.symm.trans before
    exact (received.captures id different).trans unhooked
  · obtain ⟨before, collected, written⟩ := told.console
    by_cases here : Destination initial.isVerbose history .console
    · obtain ⟨held, was, is⟩ := received.here
      rw [← (told.destination _).mp here] at was is
      cases was
      refine ⟨before ++ text, .reached collected here, (Option.some.inj is).trans ?_⟩
      rw [written, String.append_assoc]
    · have different : topmost now.sinks ≠ .console := fun same => here ((told.destination _).mpr same.symm)
      exact ⟨before, .missed collected here, (received.console different).trans written⟩

theorem perform (told : Told initial history now) (operation : Operation) :
    Told initial (operation :: history) (operation.perform now) := by
  cases about : operation.capture? with
  | none =>
    cases operation with
    | write text => exact told.write text
    | hook _ | unhook _ | take _ | drop _ => cases about
  | some id =>
    obtain ⟨state, moved, own, loud⟩ := told.moves about
    refine ⟨fun other => (moved.config other).trans (told.config other), moved.sinks, fun other text => ?_,
      fun other isLoud => ?_, ?_⟩
    · by_cases same : other = id
      · subst same
        rw [moved.own]
        exact own text
      · have different : Place.buffer other ≠ .buffer id := fun equal => same (Place.buffer.inj equal)
        rw [moved.others other same, told.buffers other text]
        exact (collected_other about different).symm
    · by_cases same : other = id
      · subst same
        exact moved.own.trans (loud isLoud)
      · exact (moved.others other same).trans (told.loud other isLoud)
    · obtain ⟨text, collected, written⟩ := told.console
      exact ⟨text, .aside collected about Place.noConfusion, moved.console.trans written⟩

/-- What a capture has recorded stays until it is hooked again, taken or dropped. -/
theorem settled (told : Told initial history now) (frozen : (now.capture id).isHooked = false)
    (hook : operation ≠ .hook id) (take : operation ≠ .take id) (drop : operation ≠ .drop id) :
    ((operation.perform now).capture id).state = (now.capture id).state := by
  cases about : operation.capture? with
  | none =>
    cases operation with
    | write text =>
      have received := told.write_received text
      apply received.captures id
      intro same
      obtain ⟨held, before, -⟩ := received.here
      rw [same, contents_buffer] at before
      rw [Capture.isHooked, before] at frozen
      cases frozen
    | hook _ | unhook _ | take _ | drop _ => cases about
  | some other =>
    obtain ⟨state, moved, -, -⟩ := told.moves about
    by_cases same : id = other
    · subst same
      cases operation with
      | unhook id =>
        cases about
        exact congrArg (fun after => (capture after _).state) (unhook_idle frozen)
      | hook id => cases about; exact absurd rfl hook
      | take id => cases about; exact absurd rfl take
      | drop id => cases about; exact absurd rfl drop
      | write text => cases about
    · exact moved.others id same

end Told

/-- Nothing is hooked, and no verbose capture has ever captured anything. -/
structure Idle (diagnostics : Diagnostics) : Prop where
  sinks : diagnostics.sinks = []
  captures : ∀ id, (diagnostics.capture id).isHooked = false
  loud : ∀ id, diagnostics.isVerbose id = true → (diagnostics.capture id).state = .unhooked

theorem idle_empty : Idle {} := ⟨rfl, fun _ => rfl, fun _ loud => Bool.noConfusion loud⟩

theorem Idle.create (idle : Idle diagnostics) (config : Config) (echo : EchoTarget) : Idle (diagnostics.create config echo).2 := by
  have captures (id : CaptureId) := capture_setCapture diagnostics ⟨diagnostics.made⟩ id { config, echo }
  refine ⟨idle.sinks, fun id => ?_, fun id loud => ?_⟩
  · apply (congrArg Capture.isHooked (captures id)).trans
    split
    · rfl
    · exact idle.captures id
  · apply (congrArg Capture.state (captures id)).trans
    have isVerbose : (if id = ⟨diagnostics.made⟩ then { config, echo } else diagnostics.capture id).config.verbose = true :=
      (congrArg (fun capture => capture.config.verbose) (captures id)).symm.trans loud
    split at isVerbose
    next same => rw [if_pos same]
    next other => rw [if_neg other]; exact idle.loud id isVerbose

theorem Idle.told {initial : Diagnostics} (idle : Idle initial) : Told initial [] initial where
  config _ := rfl
  sinks := idle.sinks
  buffers id text := by
    refine iff_of_false (fun hooked => ?_) fun collected => by cases collected
    have isHooked := idle.captures id
    rw [Capture.isHooked, hooked] at isHooked
    cases isHooked
  loud := idle.loud
  console := ⟨"", .start, (String.append_empty).symm⟩

theorem Told.after {initial now : Diagnostics} {history : List Operation} (told : Told initial history now)
    (rest : List Operation) : Told initial (rest ++ history) (now.after rest) := by
  induction rest with
  | nil => exact told
  | cons operation earlier ih => exact ih.perform operation

/-- Of all the texts written, none is lost, comes twice or comes out of order. -/
structure Routed (initial : Diagnostics) (history : List Operation) (now : Diagnostics) : Prop where
  /-- Each text has one place to go to, and goes there and nowhere else. -/
  place : ∃! place, Destination initial.isVerbose history place
  written : ∀ place text, Destination initial.isVerbose history place →
    Received place text now (Operation.perform now (.write text))
  /-- The places hold what the history says they collected. -/
  buffers : ∀ id text, now.contents (.buffer id) = some text ↔ Collected initial.isVerbose history (.buffer id) text
  console : ∃ text, Collected initial.isVerbose history .console text ∧ now.console = initial.console ++ text
  recorded : ∀ id text, Collected initial.isVerbose history (.buffer id) text →
    (now.handle (.unhook id)).1 = some text ∧ (now.handle (.take id)).1 = some text
  /-- Whatever happens between the two, unless the capture is hooked again, taken or dropped. -/
  repeated : ∀ id rest, (∀ operation ∈ rest, operation ≠ .hook id ∧ operation ≠ .take id ∧ operation ≠ .drop id) →
    ((now.after (rest ++ [.unhook id])).handle (.unhook id)).1 = (now.handle (.unhook id)).1
  /-- The stack holds the hooked captures, each once, newest first. -/
  sinks : now.sinks.Nodup ∧ now.sinks.Pairwise (Newer initial.isVerbose history) ∧
    ∀ id, (id ∈ now.sinks ↔ (now.capture id).isHooked = true) ∧
      (id ∈ now.sinks ↔ ∃ later, HookedSince initial.isVerbose history id later)
  verbose : ∀ id, initial.isVerbose id = true → (now.capture id).state = .unhooked ∧
    (now.handle (.unhook id)).1 = none ∧ (now.handle (.take id)).1 = none

section

variable {initial now : Diagnostics} {history : List Operation} {text : String}

theorem isHooked_iff : (diagnostics.capture id).isHooked = true ↔ ∃ buffer, (diagnostics.capture id).state = .hooked buffer := by
  unfold Capture.isHooked
  cases (diagnostics.capture id).state <;> simp

theorem recorded_of_state (same : (diagnostics.capture id).state = .captured text) :
    (diagnostics.capture id).recorded? = some text := by
  rw [Capture.recorded?, same]

theorem Told.recorded (told : Told initial history now) (collected : Collected initial.isVerbose history (.buffer id) text) :
    ((now.unhook id).capture id).recorded? = some text := by
  obtain ⟨state, moved, -, -, freezes⟩ := told.unhook_spec id
  have frozen := freezes text ((told.buffers id text).mpr collected)
  exact recorded_of_state (moved.own.trans frozen)

theorem isHooked_congr {capture other : Capture} (same : capture.state = other.state) : capture.isHooked = other.isHooked := by
  rw [Capture.isHooked, Capture.isHooked, same]

theorem Told.unhooked (told : Told initial history now) (id : CaptureId) : ((now.unhook id).capture id).isHooked = false := by
  obtain ⟨state, moved, settled, -, -⟩ := told.unhook_spec id
  apply Bool.eq_false_iff.mpr
  intro hooked
  obtain ⟨buffer, isHooked⟩ := isHooked_iff.mp hooked
  exact settled buffer (moved.own.symm.trans isHooked)

/-- The induction is on what happened since the capture was unhooked, which left its state alone. -/
theorem Told.unhook_again (told : Told initial history now) (id : CaptureId) (rest : List Operation)
    (aside : ∀ operation ∈ rest, operation ≠ .hook id ∧ operation ≠ .take id ∧ operation ≠ .drop id) :
    ((now.after (rest ++ [.unhook id])).capture id).state = ((now.unhook id).capture id).state := by
  induction rest with
  | nil =>
    have once : now.after [.unhook id] = now.unhook id := rfl
    rw [List.nil_append, once]
  | cons operation earlier ih =>
    have same := ih fun operation member => aside operation (List.mem_cons_of_mem _ member)
    obtain ⟨hook, take, drop⟩ := aside operation (List.mem_cons_self ..)
    have frozen := (isHooked_congr same).trans (told.unhooked id)
    have before : Told initial _ (now.after (earlier ++ [.unhook id])) := told.after (earlier ++ [.unhook id])
    have still := before.settled frozen hook take drop
    rw [List.cons_append, Diagnostics.after, still, same]

theorem Told.routed (told : Told initial history now) : Routed initial history now where
  place := ⟨topmost now.sinks, (told.destination _).mpr rfl, fun other goes => (told.destination other).mp goes⟩
  written place text goes := by
    rw [(told.destination place).mp goes]
    exact told.write_received text
  buffers id text := contents_buffer.trans (told.buffers id text)
  console := told.console
  recorded id text collected := ⟨told.recorded collected, told.recorded collected⟩
  repeated id rest aside := by
    have same := told.unhook_again id rest aside
    have frozen := (isHooked_congr same).trans (told.unhooked id)
    simp only [handle, unhook_idle frozen, Capture.recorded?, same]
  sinks := by
    refine ⟨?_, ?_, fun id => ⟨(told.mem_sinks id).trans isHooked_iff.symm, ?_⟩⟩ <;> rw [told.sinks]
    · exact nodup_stack history
    · exact newest_first history
    · exact mem_stack history id
  verbose id loud := by
    have unhooked := told.loud id loud
    have idle : (now.capture id).isHooked = false := by rw [Capture.isHooked, unhooked]
    have nothing : ((now.unhook id).capture id).recorded? = none := by rw [unhook_idle idle, Capture.recorded?, unhooked]
    exact ⟨unhooked, nothing, nothing⟩

end

/-- Whatever is hooked and released in whatever order, diagnostics go where the history says they should. -/
theorem diagnostics_routed (initial : Diagnostics) (idle : Idle initial) (history : List Operation) :
    Routed initial history (initial.after history) := by
  have told := idle.told.after history
  rw [List.append_nil] at told
  exact told.routed

/-- The older of two captures is released first. -/
theorem released_out_of_order_routed :
    let initial := ((({} : Diagnostics).create {} .console).2.create {} .console).2
    let history : List Operation := [.write "c", .unhook ⟨0⟩, .write "b", .hook ⟨1⟩, .write "a", .hook ⟨0⟩]
    Idle initial ∧ Routed initial history (initial.after history) ∧
      (initial.after history).contents (.buffer ⟨1⟩) = some "bc" ∧ ((initial.after history).capture ⟨0⟩).recorded? = some "a" := by
  have idle := (idle_empty.create {} .console).create {} .console
  exact ⟨idle, diagnostics_routed _ idle _, by decide, by decide⟩

end Diagnostics

end Testbench
