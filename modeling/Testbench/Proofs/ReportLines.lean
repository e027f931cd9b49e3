import Mathlib.Data.List.Forall2
import Testbench.Proofs.JsonReading
import Testbench.Report.Record

/-! A report is read back line by line. Each record has a line of its own, the line is one object, and the object says
all that the record has to say: two records that share a line differ in nothing that is written. -/

namespace Testbench

/-- What a line of a report says. -/
structure LineFields where
  version : Nat
  test : String
  status : TestStatus
  errorKind : Option FailureKind
  message : Option String
  /-- In microseconds. -/
  duration : Nat
  switches : Option Nat
  switchExpected : SwitchExpected
  policy : Policy
deriving DecidableEq

namespace Json

def member? (json : Json) (name : String) : Option Json :=
  match json with
  | .object members => (members.find? (·.1 == name)).map (·.2)
  | _ => none

def nat? : Json → Option Nat
  | .number n => some n
  | _ => none

def text? : Json → Option String
  | .string text => some text
  | _ => none

def flag? : Json → Option Bool
  | .bool value => some value
  | _ => none

/-- One of some values, by its name. -/
def choice? (values : List α) (name : α → String) (json : Json) : Option α := do
  let text ← json.text?
  values.find? (name · == text)

/-- A member that may be left out, but has to be well formed if it is there. -/
def optional? (json : Json) (name : String) (read : Json → Option α) : Option (Option α) :=
  match json.member? name with
  | none => some none
  | some value => (read value).map some

end Json

namespace LineFields

open Json (choice?)

def ofRecord (record : TestRecord) : LineFields where
  version := TestRecord.schemaVersion
  test := record.test
  status := record.status
  errorKind := record.failure.map (·.kind)
  message := record.failure.map (·.text)
  duration := TestRecord.micros record.duration
  switches := record.switches
  switchExpected := record.switchExpected
  policy := record.policy

def status? : Json → Option TestStatus := choice? [.passed, .failed, .panicked] TestStatus.name

def kind? : Json → Option FailureKind :=
  choice? [.timeout, .resourceGrowth, .diagnosticMismatch, .notImplemented, .assertion, .registration, .config, .hub, .panicked]
    FailureKind.name

def expected? : Json → Option SwitchExpected :=
  choice? [.unresolved, .switch, .noSwitch, .unspecified] SwitchExpected.name

def timeout? : Json → Option (Option Nat)
  | .null => some none
  | json => do
    let seconds ← (← json.member? "secs").nat?
    let nanos ← (← json.member? "nanos").nat?
    return some (seconds * nanosPerSecond + nanos)

def policy? (json : Json) : Option Policy := do
  let timeout ← timeout? (← json.member? "timeout")
  let leakCheck ← (← json.member? "leak_check").flag?
  return { timeout, leakCheck }

def ofJson? (json : Json) : Option LineFields := do
  let version ← (← json.member? "v").nat?
  let test ← (← json.member? "test").text?
  let status ← status? (← json.member? "status")
  let errorKind ← json.optional? "error_kind" kind?
  let message ← json.optional? "message" (·.text?)
  let duration ← (← json.member? "duration_us").nat?
  let switches ← json.optional? "switches" (·.nat?)
  let switchExpected ← expected? (← json.member? "switch_expected")
  let policy ← policy? (← json.member? "policy")
  return { version, test, status, errorKind, message, duration, switches, switchExpected, policy }

theorem status?_name (status : TestStatus) : status? (.string status.name) = some status := by
  cases status <;> rfl

theorem kind?_name (kind : FailureKind) : kind? (.string kind.name) = some kind := by
  cases kind <;> rfl

theorem expected?_name (expected : SwitchExpected) : expected? (.string expected.name) = some expected := by
  cases expected <;> rfl

theorem timeout?_json (timeout : Option Nat) : timeout? (TestRecord.timeoutJson timeout) = some timeout := by
  cases timeout with
  | none => rfl
  | some limit =>
    have whole : limit / nanosPerSecond * nanosPerSecond + limit % nanosPerSecond = limit := Nat.div_add_mod' ..
    simp [timeout?, TestRecord.timeoutJson, Json.member?, Json.nat?, whole]

theorem ofJson?_json (record : TestRecord) : ofJson? record.json = some (ofRecord record) := by
  obtain ⟨test, failure, duration, switches, expected, policy⟩ := record
  cases failure <;> cases switches <;>
    simp [ofJson?, TestRecord.json, ofRecord, Json.member?, Json.optional?, Json.nat?, Json.text?, Json.flag?, status?_name,
      kind?_name, expected?_name, policy?, timeout?_json]

/-- Nothing goes into a line but what it says. -/
theorem json_eq_of_ofRecord_eq {record other : TestRecord} (same : ofRecord record = ofRecord other) :
    record.json = other.json := by
  simp only [ofRecord, mk.injEq] at same
  obtain ⟨-, test, status, kind, text, duration, switches, expected, policy⟩ := same
  simp only [TestRecord.json, test, status, duration, switches, expected, policy]
  cases one : record.failure <;> cases two : other.failure <;> simp_all

end LineFields

namespace TestRecord

theorem status_eq_passed (record : TestRecord) : record.status = .passed ↔ record.failure = none := by
  unfold status
  cases record.failure with
  | none => simp
  | some failure => by_cases panicked : failure.kind = .panicked <;> simp [panicked]

theorem json_object (record : TestRecord) : ∃ members, record.json = .object members ∧ (members.map (·.1)).Nodup ∧
    ("error_kind" ∈ members.map (·.1) ↔ record.status ≠ .passed) ∧ ("message" ∈ members.map (·.1) ↔ record.status ≠ .passed) ∧
    ("switches" ∈ members.map (·.1) ↔ record.switches ≠ none) := by
  refine ⟨_, rfl, ?_⟩
  rw [ne_eq, status_eq_passed]
  obtain ⟨test, failure, duration, switches, expected, policy⟩ := record
  cases failure <;> cases switches <;> simp

theorem no_newline_jsonLine (record : TestRecord) : '\n' ∉ record.jsonLine.toList := Json.no_newline_text record.json

theorem read?_jsonLine (record : TestRecord) : Json.read? record.jsonLine.toList = some record.json :=
  Json.read?_text record.json

end TestRecord

namespace Report

theorem toList_ndjson (records : List TestRecord) :
    (ndjson ⟨records⟩).toList = records.flatMap fun record => record.jsonLine.toList ++ ['\n'] := by
  rw [ndjson, String.toList_join, List.flatMap_map]
  simp only [String.toList_append]
  rfl

theorem splitOn_ndjson (records : List TestRecord) :
    (ndjson ⟨records⟩).toList.splitOn '\n' = records.map (·.jsonLine.toList) ++ [[]] := by
  rw [toList_ndjson]
  induction records with
  | nil => rfl
  | cons record records records_ih =>
    have ownLine : record.jsonLine.toList.splitOnP (· == '\n') = [record.jsonLine.toList] := by
      refine List.splitOnP_eq_singleton fun c member => ?_
      exact beq_eq_false_iff_ne.2 fun newline => record.no_newline_jsonLine (newline ▸ member)
    rw [List.flatMap_cons, List.append_assoc, List.singleton_append, List.splitOn, List.splitOnP_append_cons _ _ (by rfl),
      ownLine]
    exact congrArg (record.jsonLine.toList :: ·) records_ih

theorem count_newline_ndjson (records : List TestRecord) : (ndjson ⟨records⟩).toList.count '\n' = records.length := by
  rw [toList_ndjson]
  induction records with
  | nil => rfl
  | cons record records records_ih =>
    rw [List.flatMap_cons, List.count_append, List.count_append, List.count_eq_zero_of_not_mem record.no_newline_jsonLine,
      records_ih, List.length_cons]
    simp [Nat.add_comm]

/-- The lines of a text in which each line is ended. -/
def lines? (text : String) : Option (List (List Char)) :=
  let pieces := text.toList.splitOn '\n'
  if pieces.getLast? = some [] then some pieces.dropLast else none

/-- What a report says, line by line. -/
def read? (text : String) : Option (List LineFields) := do
  let lines ← lines? text
  lines.mapM fun line => (Json.read? line).bind LineFields.ofJson?

theorem lines?_ndjson (records : List TestRecord) : lines? (ndjson ⟨records⟩) = some (records.map (·.jsonLine.toList)) := by
  simp [lines?, splitOn_ndjson]

/-- A record's line says what the record has to say, and no more. -/
def SaidBy (record : TestRecord) (line : List Char) : Prop :=
  ∃ members, Json.read? line = some (.object members) ∧ (members.map (·.1)).Nodup ∧
    LineFields.ofJson? (.object members) = some (LineFields.ofRecord record) ∧
    ("error_kind" ∈ members.map (·.1) ↔ record.status ≠ .passed) ∧ ("message" ∈ members.map (·.1) ↔ record.status ≠ .passed) ∧
    ("switches" ∈ members.map (·.1) ↔ record.switches ≠ none)

/-- The report can be taken apart into lines again, one for each record. -/
structure ReadsBack (report : Report) : Prop where
  newlines : report.ndjson.toList.count '\n' = report.records.length
  framed : ∃ lines, lines? report.ndjson = some lines ∧ List.Forall₂ SaidBy report.records lines
  whole : read? report.ndjson = some (report.records.map LineFields.ofRecord)
  /-- The same line says the same, and what is the same is said by the same line. -/
  distinct : ∀ record ∈ report.records, ∀ other ∈ report.records,
    record.jsonLine = other.jsonLine ↔ LineFields.ofRecord record = LineFields.ofRecord other

theorem saidBy_jsonLine (record : TestRecord) : SaidBy record record.jsonLine.toList := by
  obtain ⟨members, object, distinct, kind, message, switches⟩ := record.json_object
  refine ⟨members, ?_, distinct, ?_, kind, message, switches⟩
  · rw [record.read?_jsonLine, object]
  · rw [← object, LineFields.ofJson?_json]

theorem read?_ndjson (records : List TestRecord) : read? (ndjson ⟨records⟩) = some (records.map LineFields.ofRecord) := by
  rw [read?, lines?_ndjson]
  induction records with
  | nil => rfl
  | cons record records records_ih =>
    simp only [Option.bind_eq_bind, Option.bind_some, List.map_cons, List.mapM_cons, TestRecord.read?_jsonLine,
      LineFields.ofJson?_json] at records_ih ⊢
    rw [records_ih]
    rfl

theorem jsonLine_eq_iff (record other : TestRecord) :
    record.jsonLine = other.jsonLine ↔ LineFields.ofRecord record = LineFields.ofRecord other := by
  constructor
  · intro same
    have read := LineFields.ofJson?_json record
    rw [Json.text_injective same, LineFields.ofJson?_json] at read
    exact (Option.some.inj read).symm
  · exact fun same => congrArg Json.text (LineFields.json_eq_of_ofRecord_eq same)

/-- Whatever the names and messages of its records are, a report can be read back. -/
theorem ndjson_readsBack (report : Report) : report.ReadsBack where
  newlines := count_newline_ndjson report.records
  framed := by
    refine ⟨_, lines?_ndjson report.records, ?_⟩
    exact List.forall₂_map_right_iff.2 (List.forall₂_same.2 fun record _ => saidBy_jsonLine record)
  whole := read?_ndjson report.records
  distinct record _ other _ := jsonLine_eq_iff record other

end Report

end Testbench
