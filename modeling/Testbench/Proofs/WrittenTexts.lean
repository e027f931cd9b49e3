import Testbench.Proofs.WriterStretches

/-! Texts among the bytes of a writer. A text is not held back, so it makes a difference whether it is written as a text
or as its bytes: none as long as no bytes are held back when it is written, but it arrives in front of those that are. -/

namespace Testbench

namespace Text.Utf8

open String (utf8EncodeChar)

/-- The bytes of a text. -/
def encode (text : List Char) : List UInt8 := text.flatMap utf8EncodeChar

section

variable {bytes : List UInt8} {byte : UInt8} {v : Nat} {text : List Char}

theorem encode_cons (c : Char) (text : List Char) : encode (c :: text) = utf8EncodeChar c ++ encode text := rfl

theorem decode_encode (text : List Char) : decode (encode text) = (text, []) := by
  induction text with
  | nil => rfl
  | cons c text text_ih => rw [encode_cons, decode_char (head_encode c _), text_ih]

theorem mayFollow_range (follows : mayFollow bytes byte = true) : 0x80 ≤ byte.toNat ∧ byte.toNat < 0xC0 := by
  unfold mayFollow at follows
  split at follows
  · have range := follows_iff.1 follows
    omega
  · have range := between_iff.1 follows
    simp only [UInt8.reduceToNat] at range
    omega

/-- No character starts with a byte that could go on with another one. -/
theorem Spells.not_mayFollow {rest : List UInt8} (spells : Spells (byte :: rest) v) : mayFollow bytes byte = false := by
  refine Bool.eq_false_iff.mpr fun follows => ?_
  have range := mayFollow_range follows
  cases spells <;> omega

/-- A text puts an end to what is unfinished before it. -/
theorem Opens.decode_encode (opens : Opens bytes) (some : text ≠ []) :
    Utf8.decode (bytes ++ encode text) = (replacement :: text, []) := by
  obtain ⟨c, others, rfl⟩ := List.exists_cons_of_ne_nil some
  have taken : (utf8EncodeChar c).length ≠ 0 := by
    rw [String.length_utf8EncodeChar]
    exact Nat.ne_of_gt c.utf8Size_pos
  obtain ⟨byte, rest, shown⟩ := List.exists_cons_of_ne_nil (mt List.length_eq_zero_iff.2 taken)
  have spells := spells_encode c
  rw [shown] at spells
  have whole : encode (c :: others) = byte :: (rest ++ encode others) := by
    rw [encode_cons, shown, List.cons_append]
  have refused := head_refused opens spells.not_mayFollow (rest ++ encode others)
  rw [← whole] at refused
  rw [decode_malformed refused, Utf8.decode_encode]

end

end Text.Utf8

namespace Diagnostics

/-- The text that went into a place is known from the place before and after. -/
theorem Received.unique {place : Place} {text other : String} {before after : Diagnostics}
    (received : Received place text before after) (also : Received place other before after) : text = other := by
  obtain ⟨held, start, written⟩ := received.here
  obtain ⟨held', start', written'⟩ := also.here
  obtain rfl := Option.some.inj (start.symm.trans start')
  have same := congrArg String.toList (Option.some.inj (written.symm.trans written'))
  rw [String.toList_append, String.toList_append] at same
  exact String.toList_inj.mp (List.append_cancel_left same)

end Diagnostics

namespace Writer

open Diagnostics (Received Told Idle Operation topmost)
open Text.Utf8 (Reads Opens decode decodeLossy encode)

/-- What can be done with a writer. -/
inductive Entry where
  | call (asked : Call)
  | text (written : String)
deriving DecidableEq

/-- A text as a write of its bytes. -/
def Entry.asBytes : Entry → Call
  | .call asked => asked
  | .text written => .write (encode written.toList)

/-- What an entry delivers, and the writer after it. -/
def take (writer : Writer) : Entry → Option String × Writer
  | .call asked => ((writer.handle asked).1.delivered?, (writer.handle asked).2)
  | .text written => writer.writeText written

def enter (state : Writer × Diagnostics) (entry : Entry) : Writer × Diagnostics :=
  let (delivered?, writer) := state.1.take entry
  (writer, deliverTo state.2 delivered?)

/-- A new writer, and entries made one after the other. -/
def mixedSession (diagnostics : Diagnostics) (entries : List Entry) : Writer × Diagnostics :=
  entries.foldl enter ({}, diagnostics)

/-- A text is not written while bytes are held back. The empty text is none. -/
def InTurn (writer : Writer) : Entry → Prop
  | .call _ => True
  | .text written => written.toList = [] ∨ writer.heldBack = []

def AllInTurn (writer : Writer) : List Entry → Prop
  | [] => True
  | entry :: entries => writer.InTurn entry ∧ AllInTurn (writer.take entry).2 entries

/-- The text of one entry. -/
def said (writer : Writer) : Entry → List Char
  | .call (.write bytes) => (decode (writer.heldBack ++ bytes)).1
  | .call .flush => decodeLossy writer.heldBack
  | .text written => written.toList

/-- The texts of the entries in the order they arrive. -/
def spoken (writer : Writer) : List Entry → List Char
  | [] => []
  | entry :: entries => writer.said entry ++ spoken (writer.take entry).2 entries

/-- Bytes that are held back are the beginning of a character. -/
def Waits (writer : Writer) : Prop := writer.heldBack = [] ∨ Opens writer.heldBack

section

variable {initial now : Diagnostics} {history : List Operation} {writer : Writer} {entry : Entry} {entries : List Entry}
  {text : List Char}

theorem Waits.take (waits : Waits writer) (entry : Entry) : Waits (writer.take entry).2 := by
  match entry with
  | .call (.write bytes) => exact Text.Utf8.decode_tail (writer.heldBack ++ bytes)
  | .call .flush => exact .inl rfl
  | .text _ => exact waits

theorem Waits.entered (waits : Waits writer) (entries : List Entry) (diagnostics : Diagnostics) :
    Waits (entries.foldl enter (writer, diagnostics)).1 := by
  induction entries generalizing writer diagnostics with
  | nil => exact waits
  | cons entry entries entries_ih => exact entries_ih (waits.take entry) _

/-- The bytes of a text that is written in turn are read as the text, and leave what is held back. -/
theorem Waits.decode_inTurn (waits : Waits writer) (turn : text = [] ∨ writer.heldBack = []) :
    decode (writer.heldBack ++ encode text) = (text, writer.heldBack) := by
  obtain rfl | none := turn
  · rw [encode, List.flatMap_nil, List.append_nil]
    obtain none | opens := waits
    · rw [none, Text.Utf8.decode_nil]
    · exact opens.decode
  · rw [none, List.nil_append, Text.Utf8.decode_encode]

theorem Waits.decodeLossy_encode (waits : Waits writer) (text : List Char) :
    decodeLossy (writer.heldBack ++ encode text) = decodeLossy writer.heldBack ++ text := by
  by_cases turn : text = [] ∨ writer.heldBack = []
  · obtain rfl | none := turn
    · rw [encode, List.flatMap_nil, List.append_nil, List.append_nil]
    · rw [none, List.nil_append, Text.Utf8.decodeLossy_split, Text.Utf8.decode_encode]
      exact List.append_nil text
  · obtain ⟨some, held⟩ := not_or.1 turn
    have opens := waits.resolve_left held
    rw [Text.Utf8.decodeLossy_split, opens.decode_encode some, opens.decodeLossy]
    exact List.append_nil _

/-- An entry says the same as its bytes if it is in its turn, and only then. -/
theorem Waits.said_asBytes_iff (waits : Waits writer) :
    writer.said entry = writer.said (.call entry.asBytes) ↔ writer.InTurn entry := by
  cases entry with
  | call asked => exact ⟨fun _ => trivial, fun _ => rfl⟩
  | text written =>
    refine ⟨fun same => ?_, fun turn => (congrArg Prod.fst (waits.decode_inTurn turn)).symm⟩
    obtain none | opens := waits
    · exact .inr none
    · refine .inl (of_not_not fun some => ?_)
      simp only [said, Entry.asBytes, opens.decode_encode some] at same
      exact List.cons_ne_self _ _ same.symm

theorem Waits.take_asBytes (waits : Waits writer) (turn : writer.InTurn entry) :
    (writer.take (.call entry.asBytes)).2 = (writer.take entry).2 := by
  cases entry with
  | call asked => rfl
  | text written => exact congrArg (fun read => (⟨read.2⟩ : Writer)) (waits.decode_inTurn turn)

/-- The texts are the same at every moment if all entries are in their turn, and only then. -/
theorem Waits.spoken_asBytes_iff (waits : Waits writer) :
    (∀ earlier, earlier <+: entries → spoken writer earlier = spoken writer (earlier.map (.call ·.asBytes))) ↔
      AllInTurn writer entries := by
  induction entries generalizing writer with
  | nil =>
    refine ⟨fun _ => trivial, fun _ earlier begins => ?_⟩
    rw [List.prefix_nil.1 begins]
    rfl
  | cons entry entries entries_ih =>
    constructor
    · intro same
      have first := same [entry] ⟨entries, rfl⟩
      simp only [List.map_cons, List.map_nil, spoken, List.append_nil] at first
      have turn := waits.said_asBytes_iff.1 first
      refine ⟨turn, (entries_ih (waits.take entry)).1 fun earlier begins => ?_⟩
      have more := same (entry :: earlier) ((List.cons_prefix_cons).2 ⟨rfl, begins⟩)
      rw [List.map_cons, spoken, spoken, waits.take_asBytes turn, first] at more
      exact List.append_cancel_left more
    · rintro ⟨turn, rest⟩ earlier begins
      cases earlier with
      | nil => rfl
      | cons first earlier =>
        obtain ⟨rfl, within⟩ := List.cons_prefix_cons.1 begins
        rw [List.map_cons, spoken, spoken, waits.take_asBytes turn, waits.said_asBytes_iff.2 turn]
        exact congrArg _ ((entries_ih (waits.take first)).2 rest earlier within)

/-- What is asked last does not change the turns. -/
theorem AllInTurn.append_call (turns : AllInTurn writer entries) (asked : Call) :
    AllInTurn writer (entries ++ [.call asked]) := by
  induction entries generalizing writer with
  | nil => exact ⟨trivial, trivial⟩
  | cons entry entries entries_ih => exact ⟨turns.1, entries_ih turns.2⟩

/-- What an entry says goes where diagnostics go at the time. -/
theorem take_spec (told : Told initial history now) (writer : Writer) (entry : Entry) :
    (∃ later, Told initial later (deliverTo now (writer.take entry).1)) ∧
      Received (topmost now.sinks) (String.ofList (writer.said entry)) now (deliverTo now (writer.take entry).1) := by
  match entry with
  | .call (.write bytes) => exact deliverTo_spec told (decode (writer.heldBack ++ bytes)).1
  | .call .flush => exact deliverTo_spec told (decodeLossy writer.heldBack)
  | .text written =>
    rw [said, String.ofList_toList]
    exact ⟨⟨_, told.write written⟩, told.write_received written⟩

theorem enter_spec (told : Told initial history now) (writer : Writer) (entries : List Entry) :
    (∃ later, Told initial later (entries.foldl enter (writer, now)).2) ∧
      Received (topmost now.sinks) (String.ofList (spoken writer entries)) now
        (entries.foldl enter (writer, now)).2 := by
  induction entries generalizing writer now history with
  | nil => exact ⟨⟨history, told⟩, told.received_nothing⟩
  | cons entry entries entries_ih =>
    obtain ⟨⟨later, told'⟩, received⟩ := take_spec told writer entry
    obtain ⟨still, rest⟩ := entries_ih told' (writer.take entry).2
    rw [received.sinks] at rest
    have both := received.trans rest
    rw [← String.ofList_append] at both
    exact ⟨still, both⟩

/-- A session goes on from the writer that it left. -/
theorem mixedSession_append (told : Told initial history now) (entries more : List Entry) :
    Received (topmost now.sinks) (String.ofList (spoken {} entries ++ spoken (mixedSession now entries).1 more)) now
      (mixedSession now (entries ++ more)).2 := by
  obtain ⟨⟨later, told'⟩, first⟩ := enter_spec told {} entries
  obtain ⟨-, rest⟩ := enter_spec told' (mixedSession now entries).1 more
  rw [first.sinks] at rest
  rw [String.ofList_append]
  unfold mixedSession at *
  rw [List.foldl_append]
  exact first.trans rest

theorem session_eq_mixedSession (diagnostics : Diagnostics) (calls : List Call) :
    session diagnostics calls = mixedSession diagnostics (calls.map .call) := by
  rw [mixedSession, List.foldl_map]
  rfl

/-- The same text went where diagnostics go. -/
def SameText (before one other : Diagnostics) : Prop :=
  ∃ text, Received (topmost before.sinks) text before one ∧ Received (topmost before.sinks) text before other

theorem sameText_iff (told : Told initial history now) (entries others : List Entry) :
    SameText now (mixedSession now entries).2 (mixedSession now others).2 ↔ spoken {} entries = spoken {} others := by
  obtain ⟨-, one⟩ := enter_spec told {} entries
  obtain ⟨-, other⟩ := enter_spec told {} others
  constructor
  · rintro ⟨text, received, received'⟩
    exact String.ofList_injective ((one.unique received).trans (received'.unique other))
  · intro same
    exact ⟨_, one, same ▸ other⟩

/-- What a writer of bytes and texts delivers. -/
structure Mixed (entries : List Entry) (before : Diagnostics) : Prop where
  /-- It makes no difference at any moment whether texts are written as such, if they are written in their turn. Once
  one is not, it does make a difference. -/
  agrees : (∀ earlier, earlier <+: entries →
    SameText before (mixedSession before earlier).2 (session before (earlier.map Entry.asBytes)).2) ↔ AllInTurn {} entries
  inTurn : AllInTurn {} entries → ∀ texts, List.Forall₂ Reads (stretches (entries.map Entry.asBytes)) texts →
    Received (topmost before.sinks) (String.ofList texts.flatten) before (mixedSession before (entries ++ [.call .flush])).2
  /-- A text arrives in front of what is held back, and its bytes arrive behind it. -/
  overtakes : ∀ written, ∃ soFar missing, Reads (mixedSession before entries).1.heldBack missing ∧
    Received (topmost before.sinks) (String.ofList (soFar ++ written.toList ++ missing)) before
      (mixedSession before (entries ++ [.text written, .call .flush])).2 ∧
    Received (topmost before.sinks) (String.ofList (soFar ++ missing ++ written.toList)) before
      (mixedSession before (entries ++ [.call (.write (encode written.toList)), .call .flush])).2

/-- Texts and bytes can be mixed as long as no text is written in the middle of a character. -/
theorem session_mixed (initial : Diagnostics) (idle : Idle initial) (history : List Operation) (entries : List Entry) :
    Mixed entries (initial.after history) := by
  have told := idle.told.after history
  rw [List.append_nil] at told
  have waits : Waits {} := .inl rfl
  have agrees : (∀ earlier, earlier <+: entries → SameText (initial.after history)
      (mixedSession (initial.after history) earlier).2
      (session (initial.after history) (earlier.map Entry.asBytes)).2) ↔ AllInTurn {} entries := by
    rw [← waits.spoken_asBytes_iff]
    refine forall_congr' fun earlier => imp_congr_right fun _ => ?_
    rw [session_eq_mixedSession, sameText_iff told, List.map_map]
    rfl
  refine ⟨agrees, ?inTurn, ?overtakes⟩
  case inTurn =>
    intro turns texts reads
    have same := waits.spoken_asBytes_iff.2 (turns.append_call .flush) _ List.prefix_rfl
    obtain ⟨text, received, asBytes⟩ := (sameText_iff told _ _).2 same
    obtain ⟨delivered, -⟩ := session_spec told (entries.map Entry.asBytes ++ [.flush])
    rw [stretches_append_flush, settled_flushed, List.flatMap_def, ← forall₂_reads.1 reads, session_eq_mixedSession,
      List.map_append, List.map_map] at delivered
    rw [List.map_append] at asBytes
    exact asBytes.unique delivered ▸ received
  case overtakes =>
    intro written
    have held : Waits (mixedSession (initial.after history) entries).1 := waits.entered entries _
    refine ⟨spoken {} entries, decodeLossy (mixedSession (initial.after history) entries).1.heldBack,
      Text.Utf8.reads_iff.2 rfl, ?_, ?_⟩
    · have received := mixedSession_append told entries [.text written, .call .flush]
      rwa [spoken, spoken, spoken, List.append_nil, ← List.append_assoc] at received
    · have received := mixedSession_append told entries [.call (.write (encode written.toList)), .call .flush]
      rw [List.append_assoc, ← held.decodeLossy_encode, Text.Utf8.decodeLossy_split]
      rwa [spoken, spoken, spoken, List.append_nil] at received

/-- Texts next to characters that are whole, and the empty text within one. -/
theorem texts_between_characters_mixed :
    let initial := (({} : Diagnostics).create {} .console).2
    let hooked := initial.after [.hook ⟨0⟩]
    let entries := [Entry.text "<", .call (.write [0xC3]), .text "", .call (.write [0xA9]), .text "é>"]
    Idle initial ∧ Mixed entries hooked ∧ AllInTurn {} entries ∧
      (mixedSession hooked entries).2.contents (.buffer ⟨0⟩) = some "<éé>" := by
  have idle := Diagnostics.idle_empty.create {} .console
  exact ⟨idle, session_mixed _ idle _ _, ⟨.inr rfl, trivial, .inl rfl, trivial, .inr rfl, trivial⟩, by decide +kernel⟩

/-- The text written after a byte arrives before it. -/
theorem text_overtakes_byte :
    let hooked := (({} : Diagnostics).create {} .console).2.after [.hook ⟨0⟩]
    let entries := [Entry.call (.write [0xC3]), .text "x", .call .flush]
    (mixedSession hooked entries).2.contents (.buffer ⟨0⟩) = some "x\ufffd" ∧
      (session hooked (entries.map Entry.asBytes)).2.contents (.buffer ⟨0⟩) = some "\ufffdx" ∧
      ¬SameText hooked (mixedSession hooked entries).2 (session hooked (entries.map Entry.asBytes)).2 := by
  intro hooked entries
  have written : (mixedSession hooked entries).2.contents (.buffer ⟨0⟩) = some "x\ufffd" := by decide +kernel
  have asBytes : (session hooked (entries.map Entry.asBytes)).2.contents (.buffer ⟨0⟩) = some "\ufffdx" := by
    decide +kernel
  refine ⟨written, asBytes, ?_⟩
  rintro ⟨text, received, received'⟩
  obtain ⟨held, start, one⟩ := received.here
  obtain ⟨held', start', other⟩ := received'.here
  obtain rfl := Option.some.inj (start.symm.trans start')
  have same := (written.symm.trans one).trans (other.symm.trans asBytes)
  exact absurd same (by decide)

end

end Writer

end Testbench
