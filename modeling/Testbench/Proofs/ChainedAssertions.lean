import Testbench.Proofs.DiagnosticsRouting
import Testbench.Proofs.ReportGrammar

/-! Assertions in a row undo what was written. Each of them finds its item at the head of the text, takes all of it
out, and leaves what comes after it for the next. -/

namespace Testbench

namespace Tier

open Pattern

variable {before piece rest : List Char}

theorem trimNewlines_eq_self {message : List Char} (ending : message.getLast? ≠ some '\n') :
    trimNewlines message = message := by
  rcases List.eq_nil_or_concat message with rfl | ⟨message, c, rfl⟩
  · rfl
  · have plain : c ≠ '\n' := by simpa using ending
    simp [trimNewlines, plain]

theorem takes_newline : newline.Takes before piece rest ↔ piece = ['\n'] := by
  constructor
  · rintro ⟨c, rfl, same⟩
    rw [eq_of_beq same]
  · rintro rfl
    exact ⟨'\n', rfl, rfl⟩

theorem takes_paragraphEnd :
    paragraphEnd.Takes before piece rest ↔ piece = ['\n', '\n'] ∨ piece = ['\n'] ∧ rest = [] := by
  constructor
  · rintro ⟨_, _, rfl, taken, empty | ⟨rfl, rfl⟩⟩
    · rw [takes_newline.mp taken, takes_newline.mp empty]
      exact .inl rfl
    · rw [takes_newline.mp taken]
      exact .inr ⟨rfl, rfl⟩
  · rintro (rfl | ⟨rfl, rfl⟩)
    · exact ⟨['\n'], ['\n'], rfl, takes_newline.mpr rfl, .inl (takes_newline.mpr rfl)⟩
    · exact ⟨['\n'], [], rfl, takes_newline.mpr rfl, .inr ⟨rfl, rfl⟩⟩

theorem takes_paragraph (message : List Char) : (Pattern.seq (.literal message) paragraphEnd).Takes before piece rest ↔
    piece = message ++ ['\n', '\n'] ∨ piece = message ++ ['\n'] ∧ rest = [] := by
  constructor
  · rintro ⟨_, ending, rfl, taken, isEnd⟩
    obtain rfl := (takes_literal message).mp taken
    obtain rfl | ⟨rfl, rfl⟩ := takes_paragraphEnd.mp isEnd
    · exact .inl rfl
    · exact .inr ⟨rfl, rfl⟩
  · rintro (rfl | ⟨rfl, rfl⟩)
    · exact ⟨message, ['\n', '\n'], rfl, (takes_literal message).mpr rfl, takes_paragraphEnd.mpr (.inl rfl)⟩
    · exact ⟨message, ['\n'], rfl, (takes_literal message).mpr rfl, takes_paragraphEnd.mpr (.inr ⟨rfl, rfl⟩)⟩

/-- A message with an empty line after it is found verbatim, and its end is that of the empty line. -/
theorem match?_paragraph {message : List Char} (ending : message.getLast? ≠ some '\n') (rest : List Char) :
    match? message (message ++ ['\n', '\n'] ++ rest) = some (.exact, .between (message ++ ['\n', '\n']) rest) := by
  have takes : (Pattern.seq (.literal message) paragraphEnd).Takes [] (message ++ ['\n', '\n']) rest :=
    (takes_paragraph message).mpr (.inl rfl)
  have leads := leading_eq_piece takes fun piece' rest' same taken => by
    obtain rfl | ⟨rfl, rfl⟩ := (takes_paragraph message).mp taken
    · rfl
    · simp at same
  simp only [match?, candidates, trimNewlines_eq_self ending, List.cons_append, List.nil_append,
    List.findSome?_cons, leads]
  rfl

end Tier

namespace Traceback

/-- The line a frame is written as. -/
def frameLine (frame : String) : List Char := ' ' :: ' ' :: frame.toList ++ ['\n']

theorem indented_frameLine {frame : String} (plain : '\n' ∉ frame.toList) : Indented (frameLine frame) := by
  refine ⟨' ' :: frame.toList, fun member => ?_, rfl⟩
  obtain impossible | member := List.mem_cons.mp member
  · revert impossible
    decide
  · exact plain member

theorem toList_join (texts : List String) : ("".intercalate texts).toList = (texts.map String.toList).flatten := by
  rw [String.toList_intercalate, String.toList_empty]
  induction texts.map String.toList with
  | nil => rfl
  | cons text texts ih =>
    cases texts with
    | nil => simp
    | cons other texts => simp [List.intercalate_cons_cons, ih]

theorem toList_format (frames : List String) (kind value : String) : (format frames kind value).toList =
    opening (frames.map frameLine) ++ (kind.toList ++ (": ".toList ++ (value.toList ++ ['\n']))) := by
  have lines : ("".intercalate (frames.map fun frame => "  " ++ frame ++ "\n")).toList =
      (frames.map frameLine).flatten := by
    rw [toList_join, List.map_map]
    refine congrArg List.flatten (List.map_congr_left fun frame _ => ?_)
    simp [frameLine, String.toList_append]
  cases frames with
  | nil => simp [format, opening, String.toList_append]
  | cons frame frames =>
    rw [format, opening, if_neg (by simp), if_neg (by simp)]
    simp only [String.toList_append, lines, List.append_assoc]
    rfl

end Traceback

/-! Items, the texts they are written as, and what they are asked for by. -/

namespace Diagnostics

/-- A report. It is asked for by its kind or by the last word of its kind. -/
structure Report where
  frames : List String
  kind : String
  last : String
  value : String
  asked : String
  plainFrames : ∀ frame ∈ frames, '\n' ∉ frame.toList
  named : Traceback.Named kind.toList last.toList
  plainValue : '\n' ∉ value.toList
  names : asked = kind ∨ asked = last

/-- A message, to be followed by an empty line. -/
structure Message where
  text : String
  ending : text.toList.getLast? ≠ some '\n'

def Report.written (report : Report) : String := Traceback.format report.frames report.kind report.value

def Message.written (message : Message) : String := message.text ++ "\n\n"

inductive Item where
  | report (report : Report)
  | message (message : Message)

def Item.written : Item → String
  | .report given => given.written
  | .message given => given.written

/-- The texts of the items, one after the other. -/
def Item.allWritten : List Item → String
  | [] => ""
  | item :: items => item.written ++ allWritten items

end Diagnostics

namespace Consumed

open Diagnostics (Report Message)

theorem traceback_report (report : Report) (after : String) :
    ∃ piece, traceback report.asked (some report.value) (report.written ++ after) = .ok ⟨(), piece, after.toList⟩ := by
  have indented : ∀ line ∈ report.frames.map Traceback.frameLine, Traceback.Indented line := by
    intro line member
    obtain ⟨frame, isFrame, rfl⟩ := List.mem_map.mp member
    exact Traceback.indented_frameLine (report.plainFrames frame isFrame)
  have found := Traceback.find?_report indented report.named report.plainValue after.toList
  have matched : Traceback.kindMatches report.kind.toList report.asked.toList = true := by
    obtain asked | asked := report.names <;> rw [asked]
    · exact Traceback.Named.kindMatches_full _
    · exact report.named.kindMatches_last
  have shape : (report.written ++ after).toList = Traceback.opening (report.frames.map Traceback.frameLine) ++
      (report.kind.toList ++ (": ".toList ++ (report.value.toList ++ '\n' :: after.toList))) := by
    simp [Report.written, String.toList_append, Traceback.toList_format]
  have sameValue : (some report.value).filter (·.toList ≠ report.value.toList) = none := by simp
  simp only [traceback, shape, found, matched, sameValue, if_true]
  exact ⟨_, rfl⟩

theorem message_paragraph (paragraph : Message) (after : String) :
    ∃ piece, message paragraph.text (paragraph.written ++ after) = .ok ⟨.exact, piece, after.toList⟩ := by
  have found := Tier.match?_paragraph paragraph.ending after.toList
  have shape : (paragraph.written ++ after).toList = paragraph.text.toList ++ ['\n', '\n'] ++ after.toList := by
    simp [Message.written, String.toList_append]
  simp only [message, shape, found]
  exact ⟨_, rfl⟩

end Consumed

namespace Diagnostics

variable {id : CaptureId} {text rest : String} {now : Diagnostics}

/-- The capture is not verbose, and this is what it has recorded once it is unhooked. -/
structure Records (id : CaptureId) (text : String) (now : Diagnostics) : Prop where
  quiet : (now.capture id).config.verbose = false
  recorded : (now.handle (.unhook id)).1 = some text

/-- The assertion for an item succeeds; one for a message finds it verbatim. -/
def Eats (id : CaptureId) (now next : Diagnostics) : Item → Prop
  | .report given => now.handle (.assertTraceback id given.asked (some given.value)) = (.ok (), next)
  | .message given => now.handle (.assertMessage id given.text) = (.ok (some .exact), next)

/-- The assertions for the items succeed in turn. -/
inductive Eaten (id : CaptureId) : List Item → Diagnostics → Diagnostics → Prop where
  | none {now : Diagnostics} : Eaten id [] now now
  | more {item : Item} {items : List Item} {now next after : Diagnostics} (eats : Eats id now next item)
      (eaten : Eaten id items next after) : Eaten id (item :: items) now after

/-- What is written goes into the capture, which holds this already. -/
structure Recording (id : CaptureId) (text : String) (now : Diagnostics) : Prop where
  quiet : (now.capture id).config.verbose = false
  newest : ∃ older, now.sinks = id :: older
  holds : (now.capture id).state = .hooked text

theorem recording_hook (quiet : (now.capture id).config.verbose = false) : Recording id "" (now.hook id) := by
  have moved := hook_moved quiet
  exact ⟨(congrArg Config.verbose (moved.config id)).trans quiet, ⟨_, moved.sinks⟩, moved.own⟩

theorem Recording.write (recording : Recording id text now) (more : String) :
    Recording id (text ++ more) (now.write more) := by
  obtain ⟨quiet, ⟨older, newest⟩, holds⟩ := recording
  have same (capture : Capture) : (now.setCapture id capture).capture id = capture := by
    rw [capture_setCapture, if_pos rfl]
  simp only [Diagnostics.write, newest, holds]
  exact ⟨by rw [same]; exact quiet, ⟨older, newest⟩, by rw [same]⟩

theorem Recording.records (recording : Recording id text now) : Records id text now := by
  refine ⟨recording.quiet, ?_⟩
  simp only [handle, Capture.recorded?, (unhook_moved recording.quiet recording.holds).own]

/-- Once it is captured, a text is recorded whether the capture is unhooked again or not. -/
theorem records_captured {capture : Capture} (quiet : capture.config.verbose = false)
    (captured : now.capture id = { capture with state := .captured text }) : Records id text now := by
  refine ⟨by rw [captured]; exact quiet, ?_⟩
  have idle : (now.capture id).isHooked = false := by rw [captured]; rfl
  simp only [handle, unhook_idle idle, captured]
  rfl

theorem Records.unhooked_quiet (records : Records id text now) :
    ((now.unhook id).capture id).config.verbose = false := by
  have quiet := records.quiet
  cases state : (now.capture id).state with
  | hooked buffer => exact (congrArg Config.verbose ((unhook_moved quiet state).config id)).trans quiet
  | unhooked | captured =>
    have idle : (now.capture id).isHooked = false := by rw [Capture.isHooked, state]
    rwa [unhook_idle idle]

theorem Records.unhook (records : Records id text now) : Records id text (now.unhook id) := by
  have recorded : ((now.unhook id).capture id).recorded? = some text := records.recorded
  have captured : ((now.unhook id).capture id).state = .captured text := by
    unfold Capture.recorded? at recorded
    split at recorded
    next captured => exact captured.trans (congrArg CaptureState.captured (Option.some.inj recorded))
    · cases recorded
  have same : (now.unhook id).capture id = { (now.unhook id).capture id with state := .captured text } := by
    rw [← captured]
  exact records_captured records.unhooked_quiet same

section

variable {kind message : String} {value : Option String} {failure : Failure}

/-- A text keeps what a report was not taken out of. -/
theorem Records.traceback_consumed {consumed : Consumed Unit} (records : Records id text now)
    (matched : Consumed.traceback kind value text = .ok consumed) :
    ∃ next, now.handle (.assertTraceback id kind value) = (.ok (), next) ∧
      Records id (String.ofList consumed.rest) next := by
  obtain ⟨next, answered, captured⟩ := assertTraceback_ok records.quiet records.recorded matched
  exact ⟨next, answered, records_captured records.unhooked_quiet captured⟩

theorem Records.traceback_refused (records : Records id text now)
    (refused : Consumed.traceback kind value text = .error failure) :
    ∃ next, now.handle (.assertTraceback id kind value) = (.error failure, next) ∧ Records id text next :=
  ⟨now.unhook id, assertTraceback_error records.quiet records.recorded refused, records.unhook⟩

theorem Records.message_consumed {consumed : Consumed Tier} (records : Records id text now)
    (matched : Consumed.message message text = .ok consumed) :
    ∃ next, now.handle (.assertMessage id message) = (.ok (some consumed.answer), next) ∧
      Records id (String.ofList consumed.rest) next := by
  obtain ⟨next, answered, captured⟩ := assertMessage_ok records.quiet records.recorded matched
  exact ⟨next, answered, records_captured records.unhooked_quiet captured⟩

theorem Records.message_refused (records : Records id text now)
    (refused : Consumed.message message text = .error failure) :
    ∃ next, now.handle (.assertMessage id message) = (.error failure, next) ∧ Records id text next :=
  ⟨now.unhook id, assertMessage_error records.quiet records.recorded refused, records.unhook⟩

end

/-- An item at the head of a text is taken out whole, and nothing else is. -/
theorem Records.eats {item : Item} (records : Records id (item.written ++ rest) now) :
    ∃ next, Eats id now next item ∧ Records id rest next := by
  cases item with
  | report given =>
    obtain ⟨piece, consumed⟩ := Consumed.traceback_report given rest
    obtain ⟨next, eats, left⟩ := records.traceback_consumed consumed
    rw [String.ofList_toList] at left
    exact ⟨next, eats, left⟩
  | message given =>
    obtain ⟨piece, consumed⟩ := Consumed.message_paragraph given rest
    obtain ⟨next, eats, left⟩ := records.message_consumed consumed
    rw [String.ofList_toList] at left
    exact ⟨next, eats, left⟩

theorem Records.eaten_in_order {items : List Item} (records : Records id (Item.allWritten items ++ rest) now) :
    ∃ after, Eaten id items now after ∧ Records id rest after := by
  induction items generalizing now with
  | nil => exact ⟨now, .none, by rwa [Item.allWritten, String.empty_append] at records⟩
  | cons item items ih =>
    rw [Item.allWritten, String.append_assoc] at records
    obtain ⟨next, eats, later⟩ := records.eats
    obtain ⟨after, eaten, left⟩ := ih later
    exact ⟨after, .more eats eaten, left⟩

/-- The kind is asked for by its last word, and the text was written in two pieces. -/
theorem report_and_message_eaten :
    let report : Report := ⟨["File \"hub\""], "hub.Error", "Error", "lost", "Error", by decide,
      .dot (show Traceback.IsWord "hub".toList by decide) (.word (by decide)), by decide, .inr rfl⟩
    let message : Message := ⟨"task failed", by decide⟩
    let items : List Item := [.report report, .message message]
    let id : CaptureId := ⟨0⟩
    let hooked := (({} : Diagnostics).create {} .console).2.hook id
    let now := (hooked.write report.written).write (message.written ++ "tail\n")
    Records id (Item.allWritten items ++ "tail\n") now ∧ ∃ after, Eaten id items now after ∧
      Records id "tail\n" after := by
  intro report message items id hooked now
  have fresh : Recording id "" hooked := recording_hook (by decide)
  have same : "" ++ report.written ++ (message.written ++ "tail\n") = Item.allWritten items ++ "tail\n" := by
    simp [items, Item.allWritten, Item.written, String.append_assoc]
  have records := ((fresh.write report.written).write (message.written ++ "tail\n")).records
  rw [same] at records
  exact ⟨records, records.eaten_in_order⟩

end Diagnostics

end Testbench
