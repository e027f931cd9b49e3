import Mathlib.Data.List.TakeWhile
import Testbench.Diagnostics.Capture
import Testbench.Proofs.PatternMatching

/-! Reports as they are written against reports as they are found. A report at the head of a text is found whole,
whatever comes after it: its frames are the indented lines after the header, and its kind ends at the first
character no name has. -/

namespace Testbench.Traceback

open Pattern

def IsWord (word : List Char) : Prop := word ≠ [] ∧ ∀ c ∈ word, Text.isWordChar c = true

instance (word : List Char) : Decidable (IsWord word) :=
  decidable_of_iff (word ≠ [] ∧ word.all Text.isWordChar = true) (and_congr_right' List.all_eq_true)

/-- A name of words with dots between them, and the last of the words. -/
inductive Named : (name last : List Char) → Prop where
  | word {word : List Char} (isWord : IsWord word) : Named word word
  | dot {word name last : List Char} (isWord : IsWord word) (named : Named name last) : Named (word ++ '.' :: name) last

/-- A line that starts with a blank, with the newline that ends it. -/
def Indented (line : List Char) : Prop := ∃ body, '\n' ∉ body ∧ line = ' ' :: body ++ ['\n']

/-- The characters of names. -/
def InName (c : Char) : Prop := Text.isWordChar c = true ∨ c = '.'

variable {name name' last last' value value' before piece rest rest' : List Char}

theorem not_inName_blank : ¬ InName ' ' := by unfold InName; decide

theorem not_inName_colon : ¬ InName ':' := by unfold InName; decide

theorem dot_not_mem_word {word : List Char} (isWord : IsWord word) : '.' ∉ word := by
  intro member
  have isWordChar := isWord.2 '.' member
  revert isWordChar
  decide

theorem Named.inName (named : Named name last) : ∀ c ∈ name, InName c := by
  induction named with
  | word isWord => exact fun c member => .inl (isWord.2 c member)
  | dot isWord _ ih =>
    intro c member
    obtain inWord | after := List.mem_append.mp member
    · exact .inl (isWord.2 c inWord)
    · obtain rfl | inRest := List.mem_cons.mp after
      · exact .inr rfl
      · exact ih c inRest

theorem Named.head (named : Named name last) : ∃ c rest, name = c :: rest ∧ Text.isWordChar c = true := by
  cases named with
  | word isWord | dot isWord =>
    obtain ⟨some, admitted⟩ := isWord
    obtain ⟨c, rest, rfl⟩ := List.exists_cons_of_ne_nil some
    exact ⟨c, _, rfl, admitted c (List.mem_cons_self ..)⟩

theorem Named.kindMatches_full (name : List Char) : kindMatches name name = true := by
  simp [kindMatches]

theorem Named.tail_eq (named : Named name last) : (name.reverse.takeWhile (· ≠ '.')).reverse = last := by
  induction named with
  | word isWord =>
    rw [List.takeWhile_eq_self_iff.mpr, List.reverse_reverse]
    intro c member
    exact decide_eq_true fun same => dot_not_mem_word isWord (same ▸ List.mem_reverse.mp member)
  | dot _ _ ih =>
    rw [List.reverse_append, List.reverse_cons, List.append_assoc, List.takeWhile_append]
    split
    next whole =>
      have same := List.IsPrefix.eq_of_length (List.takeWhile_prefix _) whole
      rw [← ih, same]
      simp
    next => exact ih

/-- What is asked for may be the last word alone. -/
theorem Named.kindMatches_last (named : Named name last) : kindMatches name last = true := by
  rw [kindMatches, named.tail_eq, beq_self_eq_true, Bool.or_true]

theorem takes_word : word.Takes before piece rest ↔ IsWord piece := takes_oneOrMore _

theorem takes_kindName : kindName.Takes before piece rest ↔ ∃ last, Named piece last := by
  constructor
  · rintro ⟨first, others, rfl, taken, repeated⟩
    have isWord := takes_word.mp taken
    change Repeated _ (before ++ first) others rest at repeated
    clear taken
    generalize before ++ first = along at repeated
    induction repeated generalizing first with
    | none => exact ⟨first, by rw [List.append_nil]; exact .word isWord⟩
    | more taken _ _ ih =>
      obtain ⟨_, next, rfl, ⟨c, rfl, isDot⟩, isNext⟩ := taken
      obtain ⟨last, named⟩ := ih next (takes_word.mp isNext)
      obtain rfl := eq_of_beq isDot
      exact ⟨last, .dot isWord named⟩
  · rintro ⟨last, named⟩
    induction named generalizing before with
    | word isWord => exact ⟨_, [], (List.append_nil _).symm, takes_word.mpr isWord, .none⟩
    | @dot word name last isWord _ ih =>
      obtain ⟨next, others, rfl, taken, repeated⟩ := @ih (before ++ word ++ ['.'])
      change Repeated _ (before ++ word ++ ['.'] ++ next) others rest at repeated
      refine ⟨word, '.' :: next ++ others, rfl, takes_word.mpr isWord, .more ?_ (List.cons_ne_nil _ _) ?_⟩
      · exact ⟨['.'], next, rfl, ⟨'.', rfl, rfl⟩, taken⟩
      · simpa using repeated

theorem takes_frame : frame.Takes before piece rest ↔ Indented piece := by
  constructor
  · rintro ⟨blanks, _, rfl, taken, body, _, rfl, isRest, _, rfl, isNewline⟩
    obtain ⟨some, blank⟩ := (takes_oneOrMore _).mp taken
    obtain ⟨c, more, rfl⟩ := List.exists_cons_of_ne_nil some
    obtain ⟨isBlank, others⟩ := List.forall_mem_cons.mp blank
    obtain rfl := eq_of_beq isBlank
    obtain rfl := eq_of_beq isNewline
    refine ⟨more ++ body, fun member => ?_, by simp⟩
    obtain inBlanks | inBody := List.mem_append.mp member
    · cases others _ inBlanks
    · exact takes_restOfLine.mp isRest inBody
  · rintro ⟨body, plain, rfl⟩
    refine ⟨[' '], body ++ ['\n'], rfl, (takes_oneOrMore _).mpr (by simp), body, ['\n'], rfl,
      takes_restOfLine.mpr plain, ?_⟩
    exact ⟨'\n', rfl, rfl⟩

theorem Indented.ne_nil {line : List Char} (indented : Indented line) : line ≠ [] := by
  obtain ⟨body, -, rfl⟩ := indented
  exact List.cons_ne_nil _ _

theorem repeated_frame : Repeated frame.Takes before piece rest ↔
    ∃ lines : List (List Char), (∀ line ∈ lines, Indented line) ∧ piece = lines.flatten := by
  constructor
  · intro repeated
    induction repeated with
    | none => exact ⟨[], by simp, rfl⟩
    | more taken _ _ ih =>
      obtain ⟨lines, indented, rfl⟩ := ih
      exact ⟨_ :: lines, List.forall_mem_cons.mpr ⟨takes_frame.mp taken, indented⟩, rfl⟩
  · rintro ⟨lines, indented, rfl⟩
    induction lines generalizing before with
    | nil => exact .none
    | cons line lines ih =>
      obtain ⟨first, others⟩ := List.forall_mem_cons.mp indented
      exact .more (takes_frame.mpr first) first.ne_nil (ih others)

/-- What precedes the kind of a report with the given lines. -/
def opening (lines : List (List Char)) : List Char := if lines = [] then [] else header.toList ++ lines.flatten

theorem opening_ends_line {lines : List (List Char)} (indented : ∀ line ∈ lines, Indented line)
    (starts : before.getLast?.all (· == '\n') = true) : (before ++ opening lines).getLast?.all (· == '\n') = true := by
  rcases List.eq_nil_or_concat lines with rfl | ⟨lines, line, rfl⟩
  · rwa [opening, if_pos rfl, List.append_nil]
  · obtain ⟨body, -, rfl⟩ := indented line (by simp)
    have shape : before ++ opening (lines.concat (' ' :: body ++ ['\n'])) =
        before ++ (header.toList ++ (lines.flatten ++ ' ' :: body)) ++ ['\n'] := by simp [opening]
    rw [shape, List.getLast?_concat]
    rfl

theorem takes_preamble : preamble.Takes before piece rest ↔ before.getLast?.all (· == '\n') = true ∧
    ∃ lines, (∀ line ∈ lines, Indented line) ∧ piece = opening lines := by
  constructor
  · rintro ⟨_, _, rfl, ⟨rfl, starts⟩, _, _, rfl, ⟨_, _, rfl, isHeader, first, others, rfl, taken, repeated⟩ |
      rfl, rfl, -⟩
    · obtain rfl := (takes_literal _).mp isHeader
      obtain ⟨lines, indented, rfl⟩ := repeated_frame.mp repeated
      refine ⟨starts, first :: lines, List.forall_mem_cons.mpr ⟨takes_frame.mp taken, indented⟩, ?_⟩
      simp [opening]
    · exact ⟨starts, [], by simp, rfl⟩
  · rintro ⟨starts, lines, indented, rfl⟩
    have ends := opening_ends_line indented starts
    refine ⟨[], opening lines, rfl, ⟨rfl, starts⟩, opening lines, [], (List.append_nil _).symm, ?_,
      rfl, by simpa using ends⟩
    cases lines with
    | nil => exact .inr rfl
    | cons line lines =>
      obtain ⟨first, others⟩ := List.forall_mem_cons.mp indented
      refine .inl ⟨header.toList, (line :: lines).flatten, rfl, (takes_literal _).mpr rfl, line, lines.flatten, rfl,
        takes_frame.mpr first, ?_⟩
      exact repeated_frame.mpr ⟨lines, others, rfl⟩

/-! One text is no two reports. -/

theorem eq_of_append_cons {P : Char → Prop} {left left' right right' : List Char} {stop stop' : Char}
    (inside : ∀ c ∈ left, P c) (inside' : ∀ c ∈ left', P c) (outside : ¬ P stop) (outside' : ¬ P stop')
    (same : left ++ stop :: right = left' ++ stop' :: right') : left = left' ∧ stop = stop' ∧ right = right' := by
  induction left generalizing left' with
  | nil =>
    cases left' with
    | nil => exact ⟨rfl, List.cons.inj same⟩
    | cons c left' =>
      obtain ⟨rfl, -⟩ := List.cons.inj same
      exact absurd (inside' stop (List.mem_cons_self ..)) outside
  | cons c left ih =>
    cases left' with
    | nil =>
      obtain ⟨rfl, -⟩ := List.cons.inj same
      exact absurd (inside c (List.mem_cons_self ..)) outside'
    | cons c' left' =>
      obtain ⟨rfl, onward⟩ := List.cons.inj same
      obtain ⟨rfl, others⟩ := ih (fun c member => inside c (List.mem_cons_of_mem _ member))
        (fun c member => inside' c (List.mem_cons_of_mem _ member)) onward
      exact ⟨rfl, others⟩

theorem ne_newline_of_mem {line : List Char} (plain : '\n' ∉ line) : ∀ c ∈ line, c ≠ '\n' :=
  fun _ member isNewline => plain (isNewline ▸ member)

/-- The rest of a report from its kind on. -/
theorem kindLine_unique (named : Named name last) (named' : Named name' last') (plain : '\n' ∉ value)
    (plain' : '\n' ∉ value') (ends : rest'.head?.all (· == '\n') = true)
    (same : name' ++ (": ".toList ++ (value' ++ rest')) = name ++ (": ".toList ++ (value ++ '\n' :: rest))) :
    name' = name ∧ value' = value := by
  obtain ⟨rfl, -, onward⟩ := eq_of_append_cons named'.inName named.inName not_inName_colon not_inName_colon same
  have same : value' ++ rest' = value ++ '\n' :: rest := (List.cons.inj onward).2
  refine ⟨rfl, ?_⟩
  cases rest' with
  | nil =>
    rw [List.append_nil] at same
    exact absurd (same ▸ List.mem_append_right _ (List.mem_cons_self ..)) plain'
  | cons c rest' =>
    obtain rfl : c = '\n' := by simpa using ends
    exact (eq_of_append_cons (ne_newline_of_mem plain') (ne_newline_of_mem plain) (not_not.mpr rfl)
      (not_not.mpr rfl) same).1

theorem Named.not_blank (named : Named name last) (rest tail : List Char) : name ++ rest ≠ ' ' :: tail := by
  obtain ⟨c, name, rfl, isWordChar⟩ := named.head
  intro same
  obtain ⟨rfl, -⟩ := List.cons.inj same
  revert isWordChar
  decide

theorem lines_unique {lines lines' : List (List Char)} (indented : ∀ line ∈ lines, Indented line)
    (indented' : ∀ line ∈ lines', Indented line) (named : Named name last) (named' : Named name' last')
    (same : lines'.flatten ++ (name' ++ rest') = lines.flatten ++ (name ++ rest)) : lines' = lines := by
  induction lines' generalizing lines with
  | nil =>
    cases lines with
    | nil => rfl
    | cons line lines =>
      obtain ⟨body, -, rfl⟩ := indented line (List.mem_cons_self ..)
      exact absurd same (named'.not_blank _ _)
  | cons line' lines' ih =>
    obtain ⟨⟨body', plain', rfl⟩, others'⟩ := List.forall_mem_cons.mp indented'
    cases lines with
    | nil => exact absurd same.symm (named.not_blank _ _)
    | cons line lines =>
      obtain ⟨⟨body, plain, rfl⟩, others⟩ := List.forall_mem_cons.mp indented
      have onward : body' ++ '\n' :: (lines'.flatten ++ (name' ++ rest')) =
          body ++ '\n' :: (lines.flatten ++ (name ++ rest)) := by
        simpa using same
      obtain ⟨rfl, -, later⟩ := eq_of_append_cons (ne_newline_of_mem plain') (ne_newline_of_mem plain) (not_not.mpr rfl)
        (not_not.mpr rfl) onward
      rw [ih others others' later]

/-- A name ends at another character than the first word of the header does. -/
theorem Named.not_header (named : Named name last) (rest tail : List Char) :
    header.toList ++ rest ≠ name ++ (": ".toList ++ tail) := by
  intro same
  have isWord : IsWord "Traceback".toList := by decide
  have inside : ∀ c ∈ "Traceback".toList, InName c := fun c member => .inl (isWord.2 c member)
  have split : header.toList = "Traceback".toList ++ ' ' :: "(most recent call last):\n".toList := rfl
  rw [split, List.append_assoc] at same
  obtain ⟨-, impossible, -⟩ := eq_of_append_cons inside named.inName not_inName_blank not_inName_colon same
  revert impossible
  decide

theorem report_unique {lines lines' : List (List Char)} (indented : ∀ line ∈ lines, Indented line)
    (indented' : ∀ line ∈ lines', Indented line) (named : Named name last) (named' : Named name' last')
    (plain : '\n' ∉ value) (plain' : '\n' ∉ value') (ends : rest'.head?.all (· == '\n') = true)
    (same : opening lines' ++ (name' ++ (": ".toList ++ (value' ++ rest'))) =
      opening lines ++ (name ++ (": ".toList ++ (value ++ '\n' :: rest)))) :
    lines' = lines ∧ name' = name ∧ value' = value := by
  obtain rfl : lines' = lines := by
    unfold opening at same
    split at same <;> split at same
    next none none' => rw [none, none']
    next => exact absurd same.symm (by rw [List.nil_append, List.append_assoc]; exact named'.not_header _ _)
    next => exact absurd same (by rw [List.nil_append, List.append_assoc]; exact named.not_header _ _)
    next =>
      rw [List.append_assoc, List.append_assoc] at same
      exact lines_unique indented indented' named named' (List.append_cancel_left same)
  exact ⟨rfl, kindLine_unique named named' plain plain' ends (List.append_cancel_left same)⟩

/-! Reports found in texts that begin with them. -/

theorem takes_value : (Pattern.seq .restOfLine .lineEnd).Takes before piece rest ↔
    '\n' ∉ piece ∧ rest.head?.all (· == '\n') = true := by
  constructor
  · rintro ⟨_, _, rfl, isRest, rfl, ends⟩
    rw [List.append_nil]
    exact ⟨takes_restOfLine.mp isRest, ends⟩
  · rintro ⟨plain, ends⟩
    exact ⟨piece, [], (List.append_nil _).symm, takes_restOfLine.mpr plain, rfl, ends⟩

theorem row_of_report {lines : List (List Char)} (starts : before.getLast?.all (· == '\n') = true)
    (indented : ∀ line ∈ lines, Indented line) (named : Named name last) (plain : '\n' ∉ value)
    (ends : rest.head?.all (· == '\n') = true) : Row parts before [opening lines, name, ": ".toList, value] rest :=
  ⟨takes_preamble.mpr ⟨starts, lines, indented, rfl⟩, takes_kindName.mpr ⟨last, named⟩, (takes_literal _).mpr rfl,
    takes_value.mpr ⟨plain, ends⟩, trivial⟩

theorem report_of_row {pieces : List (List Char)} (row : Row parts before pieces rest) :
    before.getLast?.all (· == '\n') = true ∧ ∃ lines name last value, (∀ line ∈ lines, Indented line) ∧ Named name last ∧
      '\n' ∉ value ∧ rest.head?.all (· == '\n') = true ∧ pieces = [opening lines, name, ": ".toList, value] := by
  obtain ⟨_, _, rfl, isPreamble, row⟩ := row_cons.mp row
  obtain ⟨name, _, rfl, isName, row⟩ := row_cons.mp row
  obtain ⟨_, _, rfl, isColon, row⟩ := row_cons.mp row
  obtain ⟨value, _, rfl, isValue, row⟩ := row_cons.mp row
  obtain rfl := row_nil.mp row
  obtain ⟨starts, lines, indented, rfl⟩ := takes_preamble.mp isPreamble
  obtain ⟨last, named⟩ := takes_kindName.mp isName
  obtain rfl := (takes_literal _).mp isColon
  obtain ⟨plain, ends⟩ := takes_value.mp isValue
  exact ⟨starts, lines, name, last, value, indented, named, plain, ends, rfl⟩

theorem take_between (before piece rest : List Char) :
    (Cursor.between before (piece ++ rest)).rest.take
      ((Cursor.between (before ++ piece) rest).offset - (Cursor.between before (piece ++ rest)).offset) = piece := by
  simp [Cursor.between]

/-- What is made of the places a search came to. -/
theorem find?_of_search {above colon start : List Char} {pieces : List (List Char)}
    (parted : pieces = [above, name, colon, value]) (lineEnds : rest.head?.all (· == '\n') = true)
    (searched : search parts (start ++ (pieces.flatten ++ rest)) =
      some (.between start (pieces.flatten ++ rest), ends start pieces rest)) :
    find? (start ++ (pieces.flatten ++ rest)) = some ⟨name, value, start, pieces.flatten ++ rest.take 1, rest.drop 1⟩ := by
  have places : ends start [above, name, colon, value] rest =
      [.between (start ++ above) (name ++ (colon ++ (value ++ rest))),
        .between (start ++ above ++ name) (colon ++ (value ++ rest)),
        .between (start ++ above ++ name ++ colon) (value ++ rest),
        .between (start ++ above ++ name ++ colon ++ value) rest] := by simp [ends]
  have before : (start ++ (pieces.flatten ++ rest)).take start.length = start := List.take_left
  have flat : start ++ above ++ name ++ colon ++ value = start ++ pieces.flatten := by simp [parted]
  have kind := take_between (start ++ above) name (colon ++ (value ++ rest))
  have given := take_between (start ++ above ++ name ++ colon) value rest
  have whole := take_between start pieces.flatten rest
  rw [← flat] at whole
  rw [parted, places, ← parted] at searched
  rw [find?, searched]
  cases rest with
  | nil => exact congrArg some (Found.mk.injEq .. |>.mpr ⟨kind, given, before, congrArg (· ++ []) whole, rfl⟩)
  | cons c rest =>
    obtain rfl : c = '\n' := by simpa using lineEnds
    exact congrArg some (Found.mk.injEq .. |>.mpr ⟨kind, given, before, congrArg (· ++ ['\n']) whole, rfl⟩)

theorem find?_report {lines : List (List Char)} (indented : ∀ line ∈ lines, Indented line) (named : Named name last)
    (plain : '\n' ∉ value) (after : List Char) :
    find? (opening lines ++ (name ++ (": ".toList ++ (value ++ '\n' :: after)))) =
      some ⟨name, value, [], opening lines ++ (name ++ (": ".toList ++ value)) ++ ['\n'], after⟩ := by
  have row : Row parts [] [opening lines, name, ": ".toList, value] ('\n' :: after) :=
    row_of_report rfl indented named plain rfl
  have searched : search parts ([] ++ ([opening lines, name, ": ".toList, value].flatten ++ '\n' :: after)) =
      some (.between [] _, ends [] _ _) := search_eq_row row fun pieces' rest' same row' => by
    obtain ⟨-, lines', name', last', value', indented', named', plain', ends, rfl⟩ := report_of_row row'
    obtain ⟨rfl, rfl, rfl⟩ := report_unique indented indented' named named' plain plain' ends (by simpa using same)
    rfl
  have found := find?_of_search rfl rfl searched
  have flat : [opening lines, name, ": ".toList, value].flatten = opening lines ++ (name ++ (": ".toList ++ value)) := by
    simp
  rw [flat] at found
  simpa using found

end Testbench.Traceback
