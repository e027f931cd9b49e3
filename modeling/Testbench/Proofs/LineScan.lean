import Testbench.Proofs.MessageTiers

/-! Reports found line by line. A search of a text for a report finds what a scan of its lines does: the first line that
names a kind, or that is the header of a report with at least one frame and a kind. Where a report is begun and not
completed, the scan goes on with the line after the header. -/

namespace Testbench

namespace Traceback

open Pattern

/-- The lines of a text, without the newlines between them. -/
def linesOf (text : List Char) : List (List Char) := text.splitOn '\n'

/-- The text that has these lines, with a newline between any two of them. -/
def joined (lines : List (List Char)) : List Char := ['\n'].intercalate lines

/-- The lines with a newline after each. -/
def ended (lines : List (List Char)) : List Char := lines.flatMap (· ++ ['\n'])

def headerLine : List Char := header.toList.dropLast

/-- The kind and the value that a line names, with a colon and a blank between the two. -/
def kindLine? (line : List Char) : Option (List Char × List Char) :=
  let name := line.takeWhile (· ≠ ':')
  match line.dropWhile (· ≠ ':') with
  | ':' :: ' ' :: value => if ∀ word ∈ name.splitOn '.', IsWord word then some (name, value) else none
  | _ => none

def isFrame (line : List Char) : Bool := line.head? == some ' '

/-- A report among the lines of a text. -/
structure Sighting where
  before : List (List Char)
  /-- The header and the frames, if the report has any. -/
  above : List (List Char)
  kind : List Char
  value : List Char
  after : List (List Char)
deriving DecidableEq

/-- The report that the first line is the first line of. -/
def atHead? : List (List Char) → Option Sighting
  | [] => none
  | line :: below =>
    if line = headerLine then
      match below.takeWhile isFrame, below.dropWhile isFrame with
      | frame :: frames, last :: after =>
        (kindLine? last).map fun (kind, value) => ⟨[], line :: frame :: frames, kind, value, after⟩
      | _, _ => none
    else (kindLine? line).map fun (kind, value) => ⟨[], [], kind, value, below⟩

/-- The report with the earliest first line. -/
def scan? : List (List Char) → Option Sighting
  | [] => none
  | line :: below =>
    match atHead? (line :: below) with
    | some found => some found
    | none => (scan? below).map fun found => { found with before := line :: found.before }

namespace Sighting

def kindLine (found : Sighting) : List Char := found.kind ++ (": ".toList ++ found.value)

/-- The lines of the report. -/
def own (found : Sighting) : List (List Char) := found.above ++ [found.kindLine]

/-- All the lines there are. -/
def lines (found : Sighting) : List (List Char) := found.before ++ (found.own ++ found.after)

/-- The lines of the report, the newline after the last of them included if there is one. -/
def consumed (found : Sighting) : List Char :=
  if found.after = [] then joined found.own else ended found.own

/-- What is left without the report. -/
def left (found : Sighting) : List Char := ended found.before ++ joined found.after

/-- It is asked for by the kind or by its last component, and perhaps by the value. -/
def Answers (found : Sighting) (kind : String) (value : Option String) : Prop :=
  (kind.toList = found.kind ∨ (found.kind.splitOn '.').getLast? = some kind.toList) ∧
    ∀ asked ∈ value, asked.toList = found.value

end Sighting

variable {name last value line text before piece rest : List Char} {lines above after : List (List Char)}
  {found : Sighting}

/-! Lines and texts. -/

theorem linesOf_plain (text : List Char) : ∀ line ∈ linesOf text, '\n' ∉ line := by
  intro line member newline
  rw [linesOf, List.splitOn_eq_splitOnP] at member
  have stops := Text.eq_false_of_mem_splitOnP member '\n' newline
  cases stops

theorem joined_linesOf (text : List Char) : joined (linesOf text) = text := List.intercalate_splitOn '\n'

theorem linesOf_joined (plain : ∀ line ∈ lines, '\n' ∉ line) (some : lines ≠ []) : linesOf (joined lines) = lines :=
  List.splitOn_intercalate '\n' plain some

/-- What comes after a line. -/
def below : List (List Char) → List Char
  | [] => []
  | line :: lines => '\n' :: joined (line :: lines)

theorem joined_cons (line : List Char) (lines : List (List Char)) : joined (line :: lines) = line ++ below lines := by
  cases lines with
  | nil => simp [joined, below]
  | cons next lines => simp [joined, below, List.intercalate_cons_cons]

theorem joined_append (above : List (List Char)) (line : List Char) (after : List (List Char)) :
    joined (above ++ line :: after) = ended above ++ joined (line :: after) := by
  induction above with
  | nil => rfl
  | cons first above ih =>
    obtain ⟨next, others, shown⟩ : ∃ next others, above ++ line :: after = next :: others :=
      List.exists_cons_of_ne_nil (by simp)
    rw [List.cons_append, joined_cons, shown, below, ← shown, ih]
    simp [ended]

theorem below_ends (lines : List (List Char)) : (below lines).head?.all (· == '\n') = true := by
  cases lines <;> rfl

theorem exists_below (ends : rest.head?.all (· == '\n') = true) :
    ∃ after, rest = below after ∧ ∀ line ∈ after, '\n' ∉ line := by
  cases rest with
  | nil => exact ⟨[], rfl, by simp⟩
  | cons c rest =>
    obtain rfl : c = '\n' := by simpa using ends
    obtain ⟨line, lines, shown⟩ := List.exists_cons_of_ne_nil (List.splitOn_ne_nil '\n' rest)
    have shown : linesOf rest = line :: lines := shown
    refine ⟨line :: lines, ?_, shown ▸ linesOf_plain rest⟩
    rw [below, ← shown, joined_linesOf]

theorem header_eq : header.toList = headerLine ++ ['\n'] := by decide

/-! Lines of reports. -/

theorem named_iff : (∃ last, Named name last) ↔ ∀ word ∈ name.splitOn '.', IsWord word := by
  constructor
  · rintro ⟨last, named⟩
    induction named with
    | word isWord =>
      rw [List.splitOn_eq_singleton (dot_not_mem_word isWord)]
      exact List.forall_mem_singleton.mpr isWord
    | dot isWord _ ih =>
      rw [List.splitOn_append_cons_self_of_not_mem (dot_not_mem_word isWord)]
      exact List.forall_mem_cons.mpr ⟨isWord, ih⟩
  · intro words
    have whole : ['.'].intercalate (name.splitOn '.') = name := List.intercalate_splitOn '.'
    have some := List.splitOn_ne_nil '.' name
    rw [← whole]
    clear whole
    generalize name.splitOn '.' = parts at words some
    induction parts with
    | nil => exact absurd rfl some
    | cons word parts ih =>
      obtain ⟨isWord, others⟩ := List.forall_mem_cons.mp words
      cases parts with
      | nil => exact ⟨word, by simpa using Named.word isWord⟩
      | cons next parts =>
        obtain ⟨last, named⟩ := ih others (List.cons_ne_nil _ _)
        rw [List.intercalate_cons_cons, List.append_assoc]
        exact ⟨last, .dot isWord named⟩

theorem Named.getLast?_splitOn (named : Named name last) : (name.splitOn '.').getLast? = some last := by
  induction named with
  | word isWord =>
    rw [List.splitOn_eq_singleton (dot_not_mem_word isWord)]
    rfl
  | @dot word name last isWord _ ih =>
    obtain ⟨next, others, shown⟩ := List.exists_cons_of_ne_nil (List.splitOn_ne_nil '.' name)
    rw [List.splitOn_append_cons_self_of_not_mem (dot_not_mem_word isWord), shown, List.getLast?_cons_cons, ← shown, ih]

/-- The last component of a kind is its last word. -/
theorem Named.kindMatches_iff (named : Named name last) (asked : List Char) :
    kindMatches name asked = true ↔ asked = name ∨ (name.splitOn '.').getLast? = some asked := by
  rw [kindMatches, named.tail_eq, named.getLast?_splitOn, Bool.or_eq_true, beq_iff_eq, beq_iff_eq, Option.some.injEq]
  exact or_congr_left eq_comm

theorem kindLine?_eq_some : kindLine? line = some (name, value) ↔
    line = name ++ (": ".toList ++ value) ∧ ∃ last, Named name last := by
  rw [named_iff]
  constructor
  · intro read
    have whole := List.takeWhile_append_dropWhile (p := (· ≠ ':')) (l := line)
    simp only [kindLine?] at read
    split at read
    next value' shown =>
      split at read
      next words =>
        obtain ⟨rfl, rfl⟩ := Prod.mk.inj (Option.some.inj read)
        rw [shown] at whole
        exact ⟨whole.symm, words⟩
      next => cases read
    next => cases read
  · rintro ⟨rfl, words⟩
    obtain ⟨last, named⟩ := named_iff.mpr words
    have inside : ∀ c ∈ name, decide (c ≠ ':') = true := fun c member =>
      decide_eq_true fun same => not_inName_colon (same ▸ named.inName c member)
    simp only [kindLine?, List.takeWhile_append_of_pos inside, List.dropWhile_append_of_pos inside]
    simpa using words

theorem Named.not_frame (named : Named name last) (rest : List Char) : isFrame (name ++ rest) = false := by
  obtain ⟨c, name, rfl, isWordChar⟩ := named.head
  refine beq_eq_false_iff_ne.mpr fun same => ?_
  obtain rfl : c = ' ' := Option.some.inj same
  revert isWordChar
  decide

theorem Named.ne_headerLine (named : Named name last) (value : List Char) : name ++ (": ".toList ++ value) ≠ headerLine := by
  intro same
  apply named.not_header [] (value ++ ['\n'])
  rw [header_eq, ← same]
  simp only [List.append_assoc, List.append_nil]

/-- The header and the frames, or nothing. -/
def headed (frames : List (List Char)) : List (List Char) := if frames = [] then [] else headerLine :: frames

/-- The lines of a report, wherever it stands. -/
structure Sighting.Shown (found : Sighting) (frames : List (List Char)) : Prop where
  framed : ∀ line ∈ frames, isFrame line = true
  above : found.above = headed frames
  named : ∃ last, Named found.kind last

theorem atHead?_eq_some : atHead? lines = some found ↔
    found.before = [] ∧ lines = found.lines ∧ ∃ frames, found.Shown frames := by
  constructor
  · intro read
    cases lines with
    | nil => cases read
    | cons line rest =>
      have whole := List.takeWhile_append_dropWhile (p := isFrame) (l := rest)
      simp only [atHead?] at read
      split at read
      next isHeader =>
        split at read
        next frame frames last after taken dropped =>
          obtain ⟨⟨kind, value⟩, isKind, rfl⟩ := Option.map_eq_some_iff.mp read
          obtain ⟨rfl, named⟩ := kindLine?_eq_some.mp isKind
          have framed : ∀ line ∈ frame :: frames, isFrame line = true := taken ▸ fun _ => List.mem_takeWhile_imp
          refine ⟨rfl, ?_, frame :: frames, framed, by rw [headed, if_neg (List.cons_ne_nil _ _), isHeader], named⟩
          rw [← whole, taken, dropped]
          simp [Sighting.lines, Sighting.own, Sighting.kindLine]
        next => cases read
      next =>
        obtain ⟨⟨kind, value⟩, isKind, rfl⟩ := Option.map_eq_some_iff.mp read
        obtain ⟨rfl, named⟩ := kindLine?_eq_some.mp isKind
        exact ⟨rfl, rfl, [], by simp, rfl, named⟩
  · rintro ⟨first, rfl, frames, framed, above, last, named⟩
    obtain ⟨before, above', kind, value, after⟩ := found
    simp only at first above named
    subst first above
    have isKind : kindLine? (kind ++ (": ".toList ++ value)) = some (kind, value) :=
      kindLine?_eq_some.mpr ⟨rfl, last, named⟩
    cases frames with
    | nil =>
      have shape : Sighting.lines ⟨[], headed [], kind, value, after⟩ = (kind ++ (": ".toList ++ value)) :: after := rfl
      rw [shape, atHead?, if_neg (named.ne_headerLine value), isKind]
      rfl
    | cons frame frames =>
      have shape : Sighting.lines ⟨[], headed (frame :: frames), kind, value, after⟩ =
          headerLine :: (frame :: frames ++ (kind ++ (": ".toList ++ value)) :: after) := by
        simp [Sighting.lines, Sighting.own, Sighting.kindLine, headed]
      have stops := Bool.eq_false_iff.mp (named.not_frame (": ".toList ++ value))
      rw [shape, atHead?, if_pos rfl, List.takeWhile_append_of_pos framed, List.dropWhile_append_of_pos framed,
        List.takeWhile_cons_of_neg stops, List.dropWhile_cons_of_neg stops, List.append_nil]
      simp only [isKind, Option.map_some]
      rfl

theorem scan?_lines (scanned : scan? lines = some found) : found.lines = lines ∧ ∃ frames, found.Shown frames := by
  induction lines generalizing found with
  | nil => cases scanned
  | cons line others ih =>
    rw [scan?] at scanned
    split at scanned
    next here =>
      obtain rfl := Option.some.inj scanned
      obtain ⟨-, whole, shown⟩ := atHead?_eq_some.mp here
      exact ⟨whole.symm, shown⟩
    next =>
      obtain ⟨later, onward, rfl⟩ := Option.map_eq_some_iff.mp scanned
      obtain ⟨rfl, frames, framed, above, named⟩ := ih onward
      exact ⟨rfl, frames, framed, above, named⟩

/-! Reports that the patterns find. -/

namespace Sighting

/-- What the parts of a report take. -/
def pieces (found : Sighting) : List (List Char) := [ended found.above, found.kind, ": ".toList, found.value]

theorem pieces_flatten (found : Sighting) :
    found.pieces.flatten ++ below found.after = joined (found.own ++ found.after) := by
  rw [own, List.append_assoc, List.singleton_append, joined_append, joined_cons]
  simp [pieces, kindLine]

end Sighting

theorem indented_frame (framed : isFrame line = true) (plain : '\n' ∉ line) : Indented (line ++ ['\n']) := by
  obtain ⟨body, rfl⟩ := List.head?_eq_some_iff.mp (eq_of_beq framed)
  exact ⟨body, fun newline => plain (List.mem_cons_of_mem _ newline), rfl⟩

theorem opening_frames (frames : List (List Char)) : opening (frames.map (· ++ ['\n'])) = ended (headed frames) := by
  cases frames with
  | nil => rfl
  | cons frame frames =>
    rw [opening, headed, if_neg (by simp), if_neg (by simp), header_eq]
    simp [ended, List.flatMap_def]

theorem frames_of_indented (indented : ∀ line ∈ lines, Indented line) :
    ∃ frames : List (List Char), lines = frames.map (· ++ ['\n']) ∧ ∀ line ∈ frames, isFrame line = true ∧ '\n' ∉ line := by
  induction lines with
  | nil => exact ⟨[], rfl, by simp⟩
  | cons line lines ih =>
    obtain ⟨⟨body, plain, rfl⟩, others⟩ := List.forall_mem_cons.mp indented
    obtain ⟨frames, rfl, framed⟩ := ih others
    refine ⟨(' ' :: body) :: frames, rfl, List.forall_mem_cons.mpr ⟨⟨rfl, fun newline => ?_⟩, framed⟩⟩
    obtain impossible | inBody := List.mem_cons.mp newline
    · cases impossible
    · exact plain inBody

theorem row_of_shown {frames : List (List Char)} (starts : before.getLast?.all (· == '\n') = true)
    (shown : found.Shown frames) (plain : ∀ line ∈ found.own, '\n' ∉ line) :
    Row parts before found.pieces (below found.after) := by
  obtain ⟨framed, above, last, named⟩ := shown
  have indented : ∀ line ∈ frames.map (· ++ ['\n']), Indented line := by
    intro line member
    obtain ⟨frame, isFrame, rfl⟩ := List.mem_map.mp member
    refine indented_frame (framed frame isFrame) (plain frame (List.mem_append_left _ ?_))
    rw [above, headed, if_neg (List.ne_nil_of_mem isFrame)]
    exact List.mem_cons_of_mem _ isFrame
  have plainValue : '\n' ∉ found.value := fun newline =>
    plain found.kindLine (List.mem_append_right _ (List.mem_singleton_self _))
      (List.mem_append_right _ (List.mem_append_right _ newline))
  rw [Sighting.pieces, above, ← opening_frames]
  exact row_of_report starts indented named plainValue (below_ends _)

theorem shown_of_row {pieces : List (List Char)} (row : Row parts before pieces rest) :
    ∃ (found : Sighting) (frames : List (List Char)), found.Shown frames ∧ found.before = [] ∧ pieces = found.pieces ∧
      rest = below found.after ∧ ∀ line ∈ found.lines, '\n' ∉ line := by
  obtain ⟨-, lines, name, last, value, indented, named, plain, ends, rfl⟩ := report_of_row row
  obtain ⟨frames, rfl, framed⟩ := frames_of_indented indented
  obtain ⟨after, rfl, plainAfter⟩ := exists_below ends
  refine ⟨⟨[], headed frames, name, value, after⟩, frames, ⟨fun line member => (framed line member).1, rfl, last, named⟩,
    rfl, by rw [opening_frames]; rfl, rfl, ?_⟩
  have plainHeader : ∀ line ∈ headed frames, '\n' ∉ line := by
    intro line member
    unfold headed at member
    split at member
    · cases member
    · obtain rfl | isFrame := List.mem_cons.mp member
      · decide
      · exact (framed line isFrame).2
  have plainKind : '\n' ∉ name ++ (": ".toList ++ value) := by
    have noNewline : ¬ InName '\n' := by unfold InName; decide
    simp only [List.mem_append, not_or]
    exact ⟨fun newline => noNewline (named.inName _ newline), by decide, plain⟩
  intro line member
  simp only [Sighting.lines, Sighting.own, List.nil_append, List.mem_append, List.mem_singleton] at member
  obtain (isAbove | rfl) | isAfter := member
  · exact plainHeader line isAbove
  · exact plainKind
  · exact plainAfter line isAfter

theorem split_joined (starts : before.getLast?.all (· == '\n') = true) (plain : ∀ line ∈ lines, '\n' ∉ line)
    (some : lines ≠ []) : split parts (.between before (joined lines)) =
      (atHead? lines).map fun found => ends before found.pieces (below found.after) := by
  cases divided : split parts (.between before (joined lines)) with
  | none =>
    cases read : atHead? lines with
    | none => rfl
    | some found =>
      obtain ⟨first, rfl, frames, shown⟩ := atHead?_eq_some.mp read
      have plainOwn : ∀ line ∈ found.own, '\n' ∉ line := fun line member =>
        plain line (List.mem_append_right _ (List.mem_append_left _ member))
      obtain ⟨cursors, divided'⟩ := split_of_row (row_of_shown starts shown plainOwn)
      rw [found.pieces_flatten] at divided'
      rw [Sighting.lines, first, List.nil_append, divided'] at divided
      cases divided
  | some cursors =>
    obtain ⟨pieces, rest, whole, row, rfl⟩ := row_of_split divided
    obtain ⟨found, frames, shown, first, rfl, rfl, plain'⟩ := shown_of_row row
    have same : lines = found.lines := by
      rw [← linesOf_joined plain some, whole, found.pieces_flatten, ← linesOf_joined plain' (by simp [Sighting.lines, Sighting.own]),
        Sighting.lines, first, List.nil_append]
    rw [atHead?_eq_some.mpr ⟨first, same, frames, shown⟩]
    rfl

/-! The search. -/

/-- A search that has come to a place in a text. -/
def searchAt (before text : List Char) : Option (Cursor × List Cursor) :=
  searchFrom parts before.length (before.getLast?.all (· == '\n')) text

theorem searchAt_skip {c : Char} (missed : split parts (.between before (c :: rest)) = none) :
    searchAt before (c :: rest) = searchAt (before ++ [c]) rest := by
  have missed : split parts ⟨before.length, before.getLast?.all (· == '\n'), c :: rest⟩ = none := missed
  rw [searchAt, searchFrom]
  simp only [missed]
  simp [searchAt]

/-- A report starts where a line does. -/
theorem split_inside {c : Char} (plain : c ≠ '\n') : split parts (.between (before ++ [c]) text) = none := by
  refine Option.eq_none_iff_forall_ne_some.mpr fun cursors divided => ?_
  obtain ⟨pieces, rest, -, row, -⟩ := row_of_split divided
  obtain ⟨starts, -⟩ := report_of_row row
  rw [List.getLast?_concat] at starts
  exact plain (eq_of_beq starts)

theorem searchAt_line (plain : '\n' ∉ line) (missed : split parts (.between before (line ++ '\n' :: rest)) = none) :
    searchAt before (line ++ '\n' :: rest) = searchAt (before ++ (line ++ ['\n'])) rest := by
  induction line generalizing before with
  | nil => exact searchAt_skip missed
  | cons c line ih =>
    rw [List.mem_cons, not_or] at plain
    rw [List.cons_append] at missed ⊢
    rw [searchAt_skip missed, ih plain.2 (split_inside (Ne.symm plain.1))]
    simp only [List.append_assoc, List.cons_append, List.nil_append]

theorem searchAt_lastLine (plain : '\n' ∉ line) (missed : split parts (.between before line) = none) :
    searchAt before line = none := by
  induction line generalizing before with
  | nil =>
    have missed : split parts ⟨before.length, before.getLast?.all (· == '\n'), []⟩ = none := missed
    rw [searchAt, searchFrom]
    simp only [missed]
  | cons c line ih =>
    rw [List.mem_cons, not_or] at plain
    rw [searchAt_skip missed]
    exact ih plain.2 (split_inside (Ne.symm plain.1))

/-- What a search gives for a report. -/
def Sighting.places (before : List Char) (found : Sighting) : Cursor × List Cursor :=
  (.between (before ++ ended found.before) (joined (found.own ++ found.after)),
    ends (before ++ ended found.before) found.pieces (below found.after))

theorem searchAt_joined (starts : before.getLast?.all (· == '\n') = true) (plain : ∀ line ∈ lines, '\n' ∉ line)
    (some : lines ≠ []) : searchAt before (joined lines) = (scan? lines).map (·.places before) := by
  induction lines generalizing before with
  | nil => exact absurd rfl some
  | cons line others ih =>
    have divided := split_joined starts plain some
    rw [scan?]
    cases read : atHead? (line :: others) with
    | some found =>
      obtain ⟨first, whole, -⟩ := atHead?_eq_some.mp read
      rw [read] at divided
      have divided : split parts ⟨before.length, before.getLast?.all (· == '\n'), joined (line :: others)⟩ = _ := divided
      have place : Sighting.places before found =
          (⟨before.length, before.getLast?.all (· == '\n'), joined (line :: others)⟩, ends before found.pieces (below found.after)) := by
        rw [whole, Sighting.lines, Sighting.places, first]
        simp [ended, Cursor.between]
      rw [searchAt, searchFrom.eq_def]
      simp only [divided, Option.map_some, place]
    | none =>
      rw [read] at divided
      obtain ⟨plainLine, plainOthers⟩ := List.forall_mem_cons.mp plain
      cases others with
      | nil =>
        have only : joined [line] = line := by simp [joined]
        rw [only] at divided ⊢
        exact searchAt_lastLine plainLine divided
      | cons next others =>
        have starts' : (before ++ (line ++ ['\n'])).getLast?.all (· == '\n') = true := by
          rw [← List.append_assoc, List.getLast?_concat]
          rfl
        rw [joined_cons, below] at divided ⊢
        rw [searchAt_line plainLine divided, ih starts' plainOthers (List.cons_ne_nil _ _), Option.map_map]
        refine congrArg (Option.map · _) (funext fun found => ?_)
        simp only [Function.comp_apply, Sighting.places, ended, List.flatMap_cons, List.append_assoc]
        rfl

theorem Sighting.consumed_eq (found : Sighting) :
    found.consumed = found.pieces.flatten ++ (below found.after).take 1 := by
  unfold consumed
  cases after : found.after with
  | nil =>
    have whole := found.pieces_flatten
    rw [after, below, List.append_nil, List.append_nil] at whole
    rw [if_pos rfl, ← whole, below, List.take_nil, List.append_nil]
  | cons line lines =>
    rw [if_neg (List.cons_ne_nil _ _)]
    simp [own, ended, pieces, kindLine, below]

/-- What the search for a report makes of it. -/
def Sighting.toFound (found : Sighting) : Found :=
  ⟨found.kind, found.value, ended found.before, found.consumed, joined found.after⟩

theorem Sighting.joined_lines (found : Sighting) :
    joined found.lines = ended found.before ++ joined (found.own ++ found.after) := by
  obtain ⟨line, others, shown⟩ : ∃ line others, found.own ++ found.after = line :: others :=
    List.exists_cons_of_ne_nil (by simp [own])
  rw [lines, shown, joined_append]

theorem below_drop (lines : List (List Char)) : (below lines).drop 1 = joined lines := by
  cases lines <;> rfl

theorem find?_eq_scan? (text : List Char) : find? text = (scan? (linesOf text)).map Sighting.toFound := by
  have searched : searchAt [] (joined (linesOf text)) = (scan? (linesOf text)).map (·.places []) :=
    searchAt_joined rfl (linesOf_plain text) (List.splitOn_ne_nil '\n' text)
  rw [joined_linesOf] at searched
  have searched : search parts text = (scan? (linesOf text)).map (·.places []) := searched
  cases scanned : scan? (linesOf text) with
  | none =>
    rw [scanned] at searched
    rw [find?, searched]
    rfl
  | some found =>
    have whole : text = ended found.before ++ (found.pieces.flatten ++ below found.after) := by
      rw [found.pieces_flatten, ← found.joined_lines, (scan?_lines scanned).1, joined_linesOf]
    rw [scanned, Option.map_some, Sighting.places, ← found.pieces_flatten, List.nil_append, whole] at searched
    have parted : found.pieces = [ended found.above, found.kind, ": ".toList, found.value] := rfl
    have made := find?_of_search parted (below_ends found.after) searched
    rw [whole, made, Option.map_some, Sighting.toFound, found.consumed_eq, below_drop]

theorem Sighting.Shown.answers_iff {frames : List (List Char)} (shown : found.Shown frames) {kind : String}
    {asked : Option String} : found.Answers kind asked ↔
      kindMatches found.kind kind.toList = true ∧ asked.filter (·.toList ≠ found.value) = none := by
  obtain ⟨last, named⟩ := shown.named
  rw [named.kindMatches_iff, Option.filter_eq_none_iff]
  simp only [Sighting.Answers, decide_eq_true_eq, not_not]
  rfl

end Traceback

namespace Consumed

open Traceback (scan? linesOf Sighting)

variable {kind text : String} {value : Option String} {found : Sighting}

theorem traceback_answered (scanned : scan? (linesOf text.toList) = some found) (answers : found.Answers kind value) :
    traceback kind value text = .ok ⟨(), found.consumed, found.left⟩ := by
  obtain ⟨-, frames, shown⟩ := Traceback.scan?_lines scanned
  obtain ⟨isKind, isValue⟩ := shown.answers_iff.mp answers
  simp only [traceback, Traceback.find?_eq_scan?, scanned, Option.map_some, Sighting.toFound, isKind, isValue, if_true]
  rfl

theorem traceback_unanswered (fails : ∀ found, scan? (linesOf text.toList) = some found → ¬ found.Answers kind value) :
    ∃ reason expected, traceback kind value text = .error (.mismatch reason expected text) := by
  cases scanned : scan? (linesOf text.toList) with
  | none =>
    simp only [traceback, Traceback.find?_eq_scan?, scanned]
    exact ⟨_, _, rfl⟩
  | some found =>
    obtain ⟨-, frames, shown⟩ := Traceback.scan?_lines scanned
    have refused := fails found scanned
    rw [shown.answers_iff] at refused
    simp only [traceback, Traceback.find?_eq_scan?, scanned, Option.map_some, Sighting.toFound]
    split
    next isKind =>
      split
      next isValue => exact absurd ⟨isKind, isValue⟩ refused
      next => exact ⟨_, _, rfl⟩
    next => exact ⟨_, _, rfl⟩

end Consumed

namespace Diagnostics

open Traceback (scan? linesOf Sighting)

variable {id : CaptureId} {text : String} {now : Diagnostics}

end Diagnostics

end Testbench
