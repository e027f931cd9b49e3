import Testbench.Proofs.LineScan

/-! Asking for the report of a callback that tried to block, and for a message after it. The two are taken out one after the
other, so there is a third way for it to end: the report is found and the message is not, and then the report is gone. -/

namespace Testbench

namespace Traceback

theorem Sighting.left_shorter (found : Sighting) : found.left.length < (joined found.lines).length := by
  have colon : 2 ≤ found.pieces.flatten.length := by
    simp [pieces]
    omega
  have after : (joined found.after).length ≤ (below found.after).length := by
    rw [← below_drop, List.length_drop]
    omega
  rw [found.joined_lines, ← found.pieces_flatten, left]
  simp only [List.length_append]
  omega

end Traceback

namespace Diagnostics

open Traceback (scan? linesOf Sighting)

variable {id : CaptureId} {text other : String} {now mid : Diagnostics} {found : Sighting}

theorem Records.unique (records : Records id text now) (also : Records id other now) : text = other :=
  Option.some.inj (records.recorded.symm.trans also.recorded)

/-- The first report in the lines of the text is that of a callback that tried to block. -/
structure BlockReported (text : String) (found : Sighting) : Prop where
  scanned : scan? (linesOf text.toList) = some found
  answers : found.Answers HubError.blockingInCallback.kindName (some HubError.blockingText)

theorem BlockReported.left_ne (reported : BlockReported text found) : String.ofList found.left ≠ text := by
  intro same
  have shorter := found.left_shorter
  rw [(Traceback.scan?_lines reported.scanned).1, Traceback.joined_linesOf, ← same, String.toList_ofList] at shorter
  exact absurd shorter (Nat.lt_irrefl _)

/-- What asking for the report, and perhaps for a message after it, comes to. -/
inductive BlockAsked (id : CaptureId) (text : String) (now : Diagnostics) : Option String → Prop where
  | unreported {message? : Option String} {reason expected : String} {next : Diagnostics}
      (noReport : ∀ found, ¬ BlockReported text found)
      (answered : now.handle (.assertBlocked id message?) = (.error (.mismatch reason expected text), next))
      (left : Records id text next) : BlockAsked id text now message?
  /-- The lines of the report are taken out, and no others. -/
  | reported {found : Sighting} {next : Diagnostics} (reported : BlockReported text found)
      (whole : found.lines = linesOf text.toList) (answered : now.handle (.assertBlocked id none) = (.ok (), next))
      (left : Records id (String.ofList found.left) next) : BlockAsked id text now none
  /-- The message is at the head of what the report leaves, and is taken out too. -/
  | followed {found : Sighting} {message : String} {tier : Tier} {piece rest : List Char} {next : Diagnostics}
      (reported : BlockReported text found) (whole : found.lines = linesOf text.toList) (shown : found.left = piece ++ rest)
      (matched : Tier.match? message.toList found.left = some (tier, .between piece rest))
      (stands : Tier.Stands message.toList found.left tier piece rest)
      (answered : now.handle (.assertBlocked id (some message)) = (.ok (), next))
      (left : Records id (String.ofList rest) next) : BlockAsked id text now (some message)
  /-- The report stays out, although the assertion fails. -/
  | halfway {found : Sighting} {message : String} {next : Diagnostics} (reported : BlockReported text found)
      (whole : found.lines = linesOf text.toList) (missed : Tier.match? message.toList found.left = none)
      (answered : now.handle (.assertBlocked id (some message)) =
        (.error (.mismatch (Text.quoted message ++ " did not match") message (String.ofList found.left)), next))
      (left : Records id (String.ofList found.left) next) : BlockAsked id text now (some message)

theorem assertBlocked_refused {failure : Failure}
    (refused : now.handle (.assertTraceback id HubError.blockingInCallback.kindName (some HubError.blockingText)) =
      (.error failure, mid)) (message? : Option String) : now.handle (.assertBlocked id message?) = (.error failure, mid) := by
  simp only [handle] at refused
  simp only [handle, assertBlocked, refused]

theorem assertBlocked_reported
    (taken : now.handle (.assertTraceback id HubError.blockingInCallback.kindName (some HubError.blockingText)) =
      (.ok (), mid)) : now.handle (.assertBlocked id none) = (.ok (), mid) := by
  simp only [handle] at taken
  simp only [handle, assertBlocked, taken]

theorem assertBlocked_asked {message : String} {answer : Except Failure (Option Tier)} {next : Diagnostics}
    (taken : now.handle (.assertTraceback id HubError.blockingInCallback.kindName (some HubError.blockingText)) =
      (.ok (), mid)) (asked : mid.handle (.assertMessage id message) = (answer, next)) :
    now.handle (.assertBlocked id (some message)) = (answer.map fun _ => (), next) := by
  simp only [handle] at taken asked
  simp only [handle, assertBlocked, taken, asked]

theorem Records.block_asked (records : Records id text now) (message? : Option String) : BlockAsked id text now message? := by
  by_cases reported : ∃ found, BlockReported text found
  · obtain ⟨found, reported⟩ := reported
    have whole := (Traceback.scan?_lines reported.scanned).1
    obtain ⟨mid, taken, left⟩ := records.traceback_consumed (Consumed.traceback_answered reported.scanned reported.answers)
    cases message? with
    | none => exact .reported reported whole (assertBlocked_reported taken) left
    | some message =>
      have again : (String.ofList found.left).toList = found.left := String.toList_ofList
      cases result : Tier.match? message.toList found.left with
      | none =>
        obtain ⟨next, asked, stays⟩ := left.message_missed (again.symm ▸ result)
        exact .halfway reported whole result (assertBlocked_asked taken asked) stays
      | some matched =>
        obtain ⟨tier, stop⟩ := matched
        obtain ⟨piece, rest, stands, shown, rfl⟩ := Tier.stands_of_match? result
        obtain ⟨next, asked, stays⟩ := left.message_found (again.symm ▸ result)
        exact .followed reported whole shown result stands (assertBlocked_asked taken asked) stays
  · have noReport : ∀ found, ¬ BlockReported text found := not_exists.mp reported
    have fails (found : Sighting) (scanned : scan? (linesOf text.toList) = some found) :
        ¬ found.Answers HubError.blockingInCallback.kindName (some HubError.blockingText) :=
      fun answers => noReport found ⟨scanned, answers⟩
    obtain ⟨reason, expected, refused⟩ := Consumed.traceback_unanswered fails
    obtain ⟨next, failed, stays⟩ := records.traceback_refused refused
    exact .unreported noReport (assertBlocked_refused failed message?) stays

/-- If the assertion succeeds, the report is taken out and the message after it. If it fails, the text stays as it was only
if there is no such report; if there is one, it is taken out all the same. -/
theorem Records.block_consumes (records : Records id text now) (message? : Option String) : BlockAsked id text now message? ∧
    ∀ failure next, now.handle (.assertBlocked id message?) = (.error failure, next) →
      (Records id text next ↔ ∀ found, ¬ BlockReported text found) := by
  refine ⟨records.block_asked message?, fun failure next failed => ?_⟩
  cases records.block_asked message? with
  | unreported noReport answered left =>
    cases failed.symm.trans answered
    exact iff_of_true left noReport
  | reported _ _ answered => cases failed.symm.trans answered
  | followed _ _ _ _ _ answered => cases failed.symm.trans answered
  | halfway reported _ _ answered left =>
    cases failed.symm.trans answered
    exact iff_of_false (fun stays => reported.left_ne (left.unique stays)) fun noReport => noReport _ reported

/-- The report is not the first line, and the message is what is left at the head. -/
theorem message_around_report_consumed :
    let text := "task failed\nAssertionError: Impossible to call blocking function in the event loop callback\n\nnext\n"
    let message := "task failed"
    Records ⟨0⟩ text (holding text) ∧ BlockAsked ⟨0⟩ text (holding text) (some message) ∧
      ∃ next, (holding text).handle (.assertBlocked ⟨0⟩ (some message)) = (.ok (), next) ∧ Records ⟨0⟩ "next\n" next := by
  intro text message
  have records := records_holding text
  let report : Sighting := ⟨["task failed".toList], [], "AssertionError".toList, HubError.blockingText.toList,
    [[], "next".toList, []]⟩
  have reported : BlockReported text report := ⟨by decide +kernel, .inl (by decide), by simp [report]⟩
  have around : report.left = message.toList ++ ['\n', '\n'] ++ "next\n".toList := by decide
  have ending : message.toList.getLast? ≠ some '\n' := by decide
  have exactly := Tier.match?_paragraph ending "next\n".toList
  rw [← around] at exactly
  obtain ⟨asked, -⟩ := records.block_consumes (some message)
  refine ⟨records, asked, ?_⟩
  cases asked with
  | unreported noReport => exact absurd reported (noReport report)
  | followed reported' _ _ matched _ answered left =>
    obtain rfl := Option.some.inj (reported.scanned.symm.trans reported'.scanned)
    obtain ⟨-, stop⟩ := Prod.mk.inj (Option.some.inj (exactly.symm.trans matched))
    obtain rfl : "next\n".toList = _ := congrArg Cursor.rest stop
    exact ⟨_, answered, left⟩
  | halfway reported' _ missed =>
    obtain rfl := Option.some.inj (reported.scanned.symm.trans reported'.scanned)
    cases exactly.symm.trans missed

/-- The message is not there, so the assertion fails, and the report is lost. -/
theorem report_lost_without_message :
    let text := "AssertionError: Impossible to call blocking function in the event loop callback\nother\n"
    let message := "missing"
    ∃ next, (holding text).handle (.assertBlocked ⟨0⟩ (some message)) =
        (.error (.mismatch (Text.quoted message ++ " did not match") message "other\n"), next) ∧
      Records ⟨0⟩ "other\n" next ∧ ¬ Records ⟨0⟩ text next := by
  intro text message
  let report : Sighting := ⟨[], [], "AssertionError".toList, HubError.blockingText.toList, ["other".toList, []]⟩
  have reported : BlockReported text report := ⟨by decide +kernel, .inl (by decide), by simp [report]⟩
  have left : report.left = "other\n".toList := by decide
  -- In every tier the message would start with the first letter of the text.
  have missed (tier : Tier) (piece rest : List Char) : ¬ Tier.Stands message.toList "other\n".toList tier piece rest := by
    have words : Text.words (Tier.trimNewlines message.toList) = ["missing".toList] := by decide
    intro stands
    cases stands with
    | exact whole =>
      have ahead : Tier.trimNewlines message.toList <+: "other\n".toList := ⟨_, whole.symm⟩
      revert ahead
      decide
    | words _ leads opens =>
      rw [words] at opens
      obtain ⟨_, rfl, -⟩ := opens
      have ahead : "missing".toList <+: "other\n".toList := ⟨_, by rw [leads.whole, List.append_assoc]⟩
      revert ahead
      decide
    | ellipsis dots =>
      have behind : ['.', '.', '.'] <:+ Tier.trimNewlines message.toList := ⟨_, dots.symm⟩
      revert behind
      decide
  cases (records_holding text).block_asked (some message) with
  | unreported noReport => exact absurd reported (noReport report)
  | followed reported' _ _ _ stands =>
    obtain rfl := Option.some.inj (reported.scanned.symm.trans reported'.scanned)
    exact absurd (left ▸ stands) (missed _ _ _)
  | @halfway found _ next reported' _ _ answered stays =>
    obtain rfl := Option.some.inj (reported.scanned.symm.trans reported'.scanned)
    have remains : String.ofList report.left = "other\n" := by decide
    rw [remains] at answered stays
    exact ⟨next, answered, stays, fun whole => absurd (stays.unique whole) (by decide)⟩

end Diagnostics

end Testbench
