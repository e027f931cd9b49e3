import Testbench.Diagnostics.Writer
import Testbench.Proofs.DiagnosticsRouting
import Testbench.Proofs.Utf8Reading

/-! A writer that takes bytes in portions delivers what the bytes stand for, however they are cut. Only the flushes
count: the bytes between two of them are a stretch, and each stretch is read as a whole. -/

namespace Testbench

namespace Diagnostics

variable {place : Place} {text more : String} {before mid after : Diagnostics}

theorem Received.trans (first : Received place text before mid) (second : Received place more mid after) :
    Received place (text ++ more) before after where
  sinks := second.sinks.trans first.sinks
  config id := (second.config id).trans (first.config id)
  here := by
    obtain ⟨held, start, written⟩ := first.here
    obtain ⟨held', again, written'⟩ := second.here
    obtain rfl := Option.some.inj (written.symm.trans again)
    exact ⟨held, start, by rw [written', String.append_assoc]⟩
  captures id elsewhere := (second.captures id elsewhere).trans (first.captures id elsewhere)
  console elsewhere := (second.console elsewhere).trans (first.console elsewhere)

theorem Told.received_nothing {initial now : Diagnostics} {history : List Operation} (told : Told initial history now) :
    Received (topmost now.sinks) "" now now := by
  obtain ⟨held, start, -⟩ := (told.write_received "").here
  exact ⟨rfl, fun _ => rfl, ⟨held, start, by rw [String.append_empty, start]⟩, fun _ _ => rfl, fun _ => rfl⟩

end Diagnostics

namespace Writer

open Diagnostics (Received Told Idle Operation topmost)
open Text.Utf8 (Reads Opens decode decodeLossy)

def deliverTo (diagnostics : Diagnostics) : Option String → Diagnostics
  | none => diagnostics
  | some text => diagnostics.write text

/-- One call, and the diagnostics it delivers to. -/
def serve (state : Writer × Diagnostics) (call : Call) : Writer × Diagnostics :=
  let (outcome, writer) := state.1.handle call
  (writer, deliverTo state.2 outcome.delivered?)

/-- A new writer, and calls made one after the other. -/
def session (diagnostics : Diagnostics) (calls : List Call) : Writer × Diagnostics := calls.foldl serve ({}, diagnostics)

def Call.bytes : Call → List UInt8
  | .write bytes => bytes
  | .flush => []

/-- The bytes between the flushes; the last ones are not flushed yet. -/
def stretches (calls : List Call) : List (List UInt8) := (calls.splitOn .flush).map (·.flatMap Call.bytes)

/-- The text of stretches of which the last is open, and the bytes that are held back. -/
def settled : List (List UInt8) → List Char × List UInt8
  | [] => ([], [])
  | [last] => decode last
  | stretch :: rest => (decodeLossy stretch ++ (settled rest).1, (settled rest).2)

section

variable {initial now : Diagnostics} {history : List Operation}

theorem stretches_ne_nil (calls : List Call) : stretches calls ≠ [] := by
  rw [stretches, ne_eq, List.map_eq_nil_iff]
  exact List.splitOnP_ne_nil (· == Call.flush) calls

theorem stretches_write (bytes : List UInt8) (calls : List Call) :
    stretches (.write bytes :: calls) = (stretches calls).modifyHead (bytes ++ ·) := by
  obtain ⟨part, parts, split⟩ := List.exists_cons_of_ne_nil (List.splitOnP_ne_nil (· == Call.flush) calls)
  simp only [stretches, List.splitOn, List.splitOnP_cons_eq_if_modifyHead, split]
  rfl

theorem stretches_flush (calls : List Call) : stretches (.flush :: calls) = [] :: stretches calls := by
  simp only [stretches, List.splitOn, List.splitOnP_cons_eq_if_modifyHead]
  rfl

theorem stretches_append_flush (calls : List Call) : stretches (calls ++ [.flush]) = stretches calls ++ [[]] := by
  simp only [stretches, List.splitOn]
  rw [List.splitOnP_append_cons calls [] (by rfl), List.map_append]
  rfl

theorem modifyHead_nothing (whole : List (List UInt8)) : whole.modifyHead ([] ++ ·) = whole := by
  simp only [List.nil_append]
  exact congrFun List.modifyHead_id whole

theorem settled_cons {stretch : List UInt8} {rest : List (List UInt8)} (more : rest ≠ []) :
    settled (stretch :: rest) = (decodeLossy stretch ++ (settled rest).1, (settled rest).2) := by
  cases rest with
  | nil => exact absurd rfl more
  | cons => rfl

/-- What is read at once is not read again with the rest of its stretch. -/
theorem settled_modifyHead {whole : List (List UInt8)} (some : whole ≠ []) (bytes : List UInt8) :
    settled (whole.modifyHead (bytes ++ ·)) = ((decode bytes).1 ++ (settled (whole.modifyHead ((decode bytes).2 ++ ·))).1,
      (settled (whole.modifyHead ((decode bytes).2 ++ ·))).2) := by
  obtain ⟨stretch, rest, rfl⟩ := List.exists_cons_of_ne_nil some
  rw [List.modifyHead_cons, List.modifyHead_cons]
  by_cases last : rest = []
  · subst last
    exact Text.Utf8.decode_append bytes stretch
  · rw [settled_cons last, settled_cons last, Text.Utf8.decodeLossy_append, List.append_assoc]

theorem settled_flushed (whole : List (List UInt8)) : settled (whole ++ [[]]) = (whole.flatMap decodeLossy, []) := by
  induction whole with
  | nil => rfl
  | cons stretch rest rest_ih =>
    rw [List.cons_append, settled_cons (by simp), rest_ih]
    rfl

/-- A flush adds what the bytes that are held back stand for. -/
theorem settled_append_tail (whole : List (List UInt8)) :
    (settled whole).1 ++ decodeLossy (settled whole).2 = whole.flatMap decodeLossy := by
  induction whole with
  | nil => rfl
  | cons stretch rest rest_ih =>
    by_cases last : rest = []
    · subst last
      rw [settled, ← Text.Utf8.decodeLossy_split, List.flatMap_singleton]
    · rw [settled_cons last, List.append_assoc, rest_ih, List.flatMap_cons]

theorem settled_tail (whole : List (List UInt8)) : (settled whole).2 = [] ∨ Opens (settled whole).2 := by
  induction whole with
  | nil => exact .inl rfl
  | cons stretch rest rest_ih =>
    by_cases last : rest = []
    · subst last
      exact Text.Utf8.decode_tail stretch
    · rwa [settled_cons last]

/-- What a call delivers goes where diagnostics go at the time. -/
theorem deliverTo_spec (told : Told initial history now) (text : List Char) :
    (∃ later, Told initial later (deliverTo now (delivery text))) ∧
      Received (topmost now.sinks) (String.ofList text) now (deliverTo now (delivery text)) := by
  cases text with
  | nil => exact ⟨⟨history, told⟩, told.received_nothing⟩
  | cons c text => exact ⟨⟨_, told.write _⟩, told.write_received _⟩

/-- Calls to a writer that holds back no more than it must deliver what is settled of their stretches, the first of
which starts with the bytes that are held back. -/
theorem serve_spec (calls : List Call) {writer : Writer} (told : Told initial history now)
    (least : decode writer.heldBack = ([], writer.heldBack)) :
    let whole := settled ((stretches calls).modifyHead (writer.heldBack ++ ·))
    Received (topmost now.sinks) (String.ofList whole.1) now (calls.foldl serve (writer, now)).2 ∧
      (calls.foldl serve (writer, now)).1.heldBack = whole.2 := by
  induction calls generalizing writer now history with
  | nil =>
    have only : (stretches []).modifyHead (writer.heldBack ++ ·) = [writer.heldBack ++ []] := rfl
    rw [only, List.append_nil, settled, least]
    exact ⟨told.received_nothing, rfl⟩
  | cons call calls calls_ih =>
    cases call with
    | write bytes =>
      obtain ⟨⟨later, told'⟩, received⟩ := deliverTo_spec told (decode (writer.heldBack ++ bytes)).1
      obtain ⟨rest, held⟩ := @calls_ih _ _ ⟨(decode (writer.heldBack ++ bytes)).2⟩ told' (Text.Utf8.decode_tail_again _)
      rw [received.sinks] at rest
      have both := received.trans rest
      rw [← String.ofList_append] at both
      have start : (stretches (.write bytes :: calls)).modifyHead (writer.heldBack ++ ·) =
          (stretches calls).modifyHead ((writer.heldBack ++ bytes) ++ ·) := by
        rw [stretches_write, List.modifyHead_modifyHead]
        simp only [Function.comp_def, List.append_assoc]
      rw [start, settled_modifyHead (stretches_ne_nil calls)]
      exact ⟨both, held⟩
    | flush =>
      obtain ⟨⟨later, told'⟩, received⟩ := deliverTo_spec told (decodeLossy writer.heldBack)
      obtain ⟨rest, held⟩ := @calls_ih _ _ ⟨[]⟩ told' rfl
      rw [received.sinks] at rest
      have both := received.trans rest
      rw [← String.ofList_append] at both
      have start : settled ((stretches (.flush :: calls)).modifyHead (writer.heldBack ++ ·)) =
          (decodeLossy writer.heldBack ++ (settled (stretches calls)).1, (settled (stretches calls)).2) := by
        rw [stretches_flush, List.modifyHead_cons, List.append_nil, settled_cons (stretches_ne_nil calls)]
      rw [modifyHead_nothing] at both held
      rw [start]
      exact ⟨both, held⟩

/-- The writer of a session delivers its stretches as they are read as wholes. -/
structure Faithful (calls : List Call) (before : Diagnostics) : Prop where
  /-- There is one text for each stretch. -/
  readable : ∃! texts, List.Forall₂ Reads (stretches calls) texts
  flushed : ∀ texts, List.Forall₂ Reads (stretches calls) texts →
    Received (topmost before.sinks) (String.ofList texts.flatten) before (session before (calls ++ [.flush])).2
  /-- Without the flush, only the text of the bytes that are held back is missing. -/
  ahead : ∀ texts, List.Forall₂ Reads (stretches calls) texts → ∃ soFar missing, soFar ++ missing = texts.flatten ∧
    Reads (session before calls).1.heldBack missing ∧
    Received (topmost before.sinks) (String.ofList soFar) before (session before calls).2
  heldBack : ∃ c : Char, (session before calls).1.heldBack <+: String.utf8EncodeChar c ∧
    (session before calls).1.heldBack ≠ String.utf8EncodeChar c
  short : (session before calls).1.heldBack.length ≤ 3
  taken : ∀ earlier bytes later, calls = earlier ++ .write bytes :: later →
    ((session before earlier).1.handle (.write bytes)).1.taken? = some bytes.length

theorem forall₂_reads {parts : List (List UInt8)} {texts : List (List Char)} :
    List.Forall₂ Reads parts texts ↔ texts = parts.map decodeLossy := by
  constructor
  · intro reads
    induction reads with
    | nil => rfl
    | cons read _ texts_ih => rw [List.map_cons, Text.Utf8.reads_iff.1 read, texts_ih]
  · rintro rfl
    induction parts with
    | nil => exact .nil
    | cons part parts parts_ih => exact .cons (Text.Utf8.reads_iff.2 rfl) parts_ih

theorem session_spec (told : Told initial history now) (calls : List Call) :
    Received (topmost now.sinks) (String.ofList (settled (stretches calls)).1) now (session now calls).2 ∧
      (session now calls).1.heldBack = (settled (stretches calls)).2 := by
  have run := @serve_spec _ _ _ calls {} told rfl
  rwa [modifyHead_nothing] at run

/-- Bytes that are held back are the beginning of a character, and no whole one. -/
theorem properly_begins {bytes : List UInt8} (tail : bytes = [] ∨ Opens bytes) :
    ∃ c : Char, bytes <+: String.utf8EncodeChar c ∧ bytes ≠ String.utf8EncodeChar c := by
  obtain rfl | opens := tail
  · exact ⟨'a', List.nil_prefix, by decide⟩
  · obtain ⟨c, begins⟩ := opens.begins
    exact ⟨c, begins, opens.ne_encode c⟩

/-- However bytes are cut into writes, and wherever the diagnostics go, a writer delivers what the bytes between the
flushes stand for, and holds back no more than the beginning of a character. -/
theorem session_faithful (initial : Diagnostics) (idle : Idle initial) (history : List Operation) (calls : List Call) :
    Faithful calls (initial.after history) := by
  have told := idle.told.after history
  rw [List.append_nil] at told
  obtain ⟨delivered, held⟩ := session_spec told calls
  have tail := settled_tail (stretches calls)
  refine ⟨?readable, ?flushed, ?ahead, ?heldBack, ?short, fun _ _ _ _ => rfl⟩
  case readable => exact ⟨_, forall₂_reads.2 rfl, fun _ reads => forall₂_reads.1 reads⟩
  case flushed =>
    intro texts reads
    obtain ⟨delivered, -⟩ := session_spec told (calls ++ [.flush])
    rw [stretches_append_flush, settled_flushed] at delivered
    rwa [forall₂_reads.1 reads, ← List.flatMap_def]
  case ahead =>
    intro texts reads
    refine ⟨_, decodeLossy (settled (stretches calls)).2, ?_, ?_, delivered⟩
    · rw [settled_append_tail, forall₂_reads.1 reads, List.flatMap_def]
    · rw [held]
      exact Text.Utf8.reads_iff.2 rfl
  case heldBack =>
    rw [held]
    exact properly_begins tail
  case short =>
    rw [held]
    obtain none | opens := tail
    · simp [none]
    · exact opens.length_le

/-- A character cut in two, a byte that belongs to none, and a character whose end never comes. -/
theorem cut_characters_faithful :
    let initial := (({} : Diagnostics).create {} .console).2
    let hooked := initial.after [.hook ⟨0⟩]
    let calls := [Call.write [0xE2], .write [0x9C, 0x93, 0xFF], .write [0x61, 0xE2, 0x9C]]
    Idle initial ∧ Faithful calls hooked ∧ (session hooked calls).1.heldBack = [0xE2, 0x9C] ∧
      (session hooked calls).2.contents (.buffer ⟨0⟩) = some "✓\ufffda" ∧
      (session hooked (calls ++ [.flush])).2.contents (.buffer ⟨0⟩) = some "✓\ufffda\ufffd" := by
  have idle := Diagnostics.idle_empty.create {} .console
  exact ⟨idle, session_faithful _ idle _ _, by decide +kernel, by decide +kernel, by decide +kernel⟩

end

end Writer

end Testbench
