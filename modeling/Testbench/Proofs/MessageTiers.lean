import Testbench.Proofs.Paragraphs

/-! Messages against captured text. Whichever tier a message is found in, what is taken out is the message itself with
the newlines after it, or all of the paragraph at the head of the text; a message that is not found takes nothing. -/

namespace Testbench

namespace Pattern

variable {pattern : Pattern} {text piece rest : List Char}

theorem piece_of_leading {stop : Cursor} (found : pattern.leading text = some stop) :
    ∃ piece rest, text = piece ++ rest ∧ pattern.Takes [] piece rest ∧ stop = .between piece rest :=
  (mem_advance_between pattern).mp (List.mem_of_head? found)

theorem leading_of_takes (takes : pattern.Takes [] piece rest) : ∃ stop, pattern.leading (piece ++ rest) = some stop := by
  have member : Cursor.between piece rest ∈ pattern.advance [.between [] (piece ++ rest)] :=
    (mem_advance_between pattern).mpr ⟨piece, rest, rfl, takes, rfl⟩
  rw [leading, Cursor.start_eq_between, ← Option.isSome_iff_exists, List.isSome_head?]
  exact List.ne_nil_of_mem member

variable {before : List Char} {body : Pattern} {admits : List Char → Prop}

theorem takes_times (takes : ∀ before piece rest, body.Takes before piece rest ↔ admits piece) (n : Nat) :
    (times body n).Takes before piece rest ↔ ∃ pieces : List (List Char), pieces.length = n ∧
      (∀ part ∈ pieces, admits part) ∧ piece = pieces.flatten := by
  induction n generalizing before piece with
  | zero => simp [times, Takes]
  | succ n ih =>
    constructor
    · rintro ⟨first, _, rfl, taken, others⟩
      obtain ⟨pieces, rfl, admitted, rfl⟩ := ih.mp others
      exact ⟨first :: pieces, rfl, List.forall_mem_cons.mpr ⟨(takes _ _ _).mp taken, admitted⟩, rfl⟩
    · rintro ⟨_ | ⟨first, pieces⟩, same, admitted, rfl⟩
      · cases same
      · obtain ⟨admitted, others⟩ := List.forall_mem_cons.mp admitted
        exact ⟨first, pieces.flatten, rfl, (takes _ _ _).mpr admitted, ih.mpr ⟨pieces, Nat.succ.inj same, others, rfl⟩⟩

theorem takes_atMost (takes : ∀ before piece rest, body.Takes before piece rest ↔ admits piece) (n : Nat) :
    (atMost body n).Takes before piece rest ↔ ∃ pieces : List (List Char), pieces.length ≤ n ∧
      (∀ part ∈ pieces, admits part) ∧ piece = pieces.flatten := by
  induction n generalizing before piece with
  | zero => simp [atMost, Takes]
  | succ n ih =>
    constructor
    · rintro (⟨first, _, rfl, taken, others⟩ | rfl)
      · obtain ⟨pieces, fewer, admitted, rfl⟩ := ih.mp others
        refine ⟨first :: pieces, Nat.succ_le_succ fewer, ?_, rfl⟩
        exact List.forall_mem_cons.mpr ⟨(takes _ _ _).mp taken, admitted⟩
      · exact ⟨[], Nat.zero_le _, by simp, rfl⟩
    · rintro ⟨_ | ⟨first, pieces⟩, fewer, admitted, rfl⟩
      · exact .inr rfl
      · obtain ⟨admitted, others⟩ := List.forall_mem_cons.mp admitted
        refine .inl ⟨first, pieces.flatten, rfl, (takes _ _ _).mpr admitted, ?_⟩
        exact ih.mpr ⟨pieces, Nat.le_of_succ_le_succ fewer, others, rfl⟩

theorem takes_between (takes : ∀ before piece rest, body.Takes before piece rest ↔ admits piece) {least most : Nat}
    (ordered : least ≤ most) : (between body least most).Takes before piece rest ↔
      ∃ pieces : List (List Char), least ≤ pieces.length ∧ pieces.length ≤ most ∧ (∀ part ∈ pieces, admits part) ∧
        piece = pieces.flatten := by
  constructor
  · rintro ⟨_, _, rfl, exactly, more⟩
    obtain ⟨pieces, rfl, admitted, rfl⟩ := (takes_times takes _).mp exactly
    obtain ⟨others, fewer, admitted', rfl⟩ := (takes_atMost takes _).mp more
    refine ⟨pieces ++ others, ?_, ?_, List.forall_mem_append.mpr ⟨admitted, admitted'⟩, List.flatten_append.symm⟩
    all_goals
      rw [List.length_append]
      omega
  · rintro ⟨pieces, some, fewer, admitted, rfl⟩
    refine ⟨(pieces.take least).flatten, (pieces.drop least).flatten, ?_, (takes_times takes _).mpr ?_,
      (takes_atMost takes _).mpr ?_⟩
    · rw [← List.flatten_append, List.take_append_drop]
    · exact ⟨_, List.length_take_of_le some, fun part member => admitted part (List.mem_of_mem_take member), rfl⟩
    · refine ⟨_, ?_, fun part member => admitted part (List.mem_of_mem_drop member), rfl⟩
      rw [List.length_drop]
      omega

end Pattern

namespace Tier

open Pattern Text

variable {message text before piece rest : List Char} {words : List (List Char)}

/-- An indented line, with the newline in front of it. -/
def IndentedBelow (line : List Char) : Prop := ∃ body, '\n' ∉ body ∧ line = '\n' :: ' ' :: body

theorem IndentedBelow.unbroken {line : List Char} (indented : IndentedBelow line) : Unbroken line := by
  obtain ⟨body, plain, rfl⟩ := indented
  exact (unbroken_newline (by decide)).append (unbroken_of_plain plain)

theorem takes_indentedBelow : (Pattern.seq .newline (.seq (.oneOrMore (.char ' ')) .restOfLine)).Takes before piece rest ↔
    IndentedBelow piece := by
  constructor
  · rintro ⟨_, _, rfl, newline, _, body, rfl, blanks, isRest⟩
    obtain rfl := takes_newline.mp newline
    obtain ⟨some, blank⟩ := (takes_oneOrMore _).mp blanks
    obtain ⟨c, others, rfl⟩ := List.exists_cons_of_ne_nil some
    obtain ⟨isBlank, onlyBlanks⟩ := List.forall_mem_cons.mp blank
    obtain rfl := eq_of_beq isBlank
    refine ⟨others ++ body, fun member => ?_, rfl⟩
    obtain inBlanks | inBody := List.mem_append.mp member
    · cases onlyBlanks _ inBlanks
    · exact takes_restOfLine.mp isRest inBody
  · rintro ⟨body, plain, rfl⟩
    refine ⟨['\n'], ' ' :: body, rfl, takes_newline.mpr rfl, [' '], body, rfl, ?_, takes_restOfLine.mpr plain⟩
    exact (takes_oneOrMore _).mpr ⟨List.cons_ne_nil _ _, by simp⟩

theorem takes_indentedTail : indentedTail.Takes before piece rest ↔ ∃ lines : List (List Char), 2 ≤ lines.length ∧
    lines.length ≤ 5 ∧ (∀ line ∈ lines, IndentedBelow line) ∧ piece = lines.flatten ++ ['\n', '\n'] := by
  constructor
  · rintro ⟨_, _, rfl, taken, _, _, rfl, newline, newline'⟩
    obtain ⟨lines, some, fewer, indented, rfl⟩ := (takes_between (fun _ _ _ => takes_indentedBelow) (by decide)).mp taken
    rw [takes_newline.mp newline, takes_newline.mp newline']
    exact ⟨lines, some, fewer, indented, rfl⟩
  · rintro ⟨lines, some, fewer, indented, rfl⟩
    refine ⟨lines.flatten, ['\n', '\n'], rfl, ?_, ['\n'], ['\n'], rfl, takes_newline.mpr rfl, takes_newline.mpr rfl⟩
    exact (takes_between (fun _ _ _ => takes_indentedBelow) (by decide)).mpr ⟨lines, some, fewer, indented, rfl⟩

theorem unbroken_indented {lines : List (List Char)} (indented : ∀ line ∈ lines, IndentedBelow line) :
    Unbroken lines.flatten := by
  induction lines with
  | nil => exact unbroken_of_plain List.not_mem_nil
  | cons line lines ih =>
    obtain ⟨first, others⟩ := List.forall_mem_cons.mp indented
    exact first.unbroken.append (ih others)

theorem opens_of_takes (plain : ∀ word ∈ words, IsPlainWord word) (takes : (inOrder words).Takes before piece rest) :
    Unbroken piece ∧ Opens Inline words piece := by
  cases words with
  | nil =>
    obtain rfl : piece = [] := takes
    exact ⟨unbroken_of_plain List.not_mem_nil, trivial⟩
  | cons first words =>
    have empty : (gap.seq .empty).Takes (before ++ piece) [] rest :=
      takes_after_gap.mpr ⟨[], [], rfl, unbroken_of_plain List.not_mem_nil, rfl⟩
    obtain ⟨paragraph, _, whole, unbroken, opens, rfl⟩ := (takes_words plain).mp
      ⟨piece, [], (List.append_nil _).symm, takes, empty⟩
    obtain rfl : piece = paragraph := by simpa using whole
    exact ⟨unbroken, opens⟩

/-- Lines after the words change nothing about the words, and have no empty line among them. -/
theorem takes_ellipsis (plain : ∀ word ∈ words, IsPlainWord word)
    (takes : ((inOrder words).seq (restOfLine.seq indentedTail)).Takes before piece rest) :
    ∃ paragraph, piece = paragraph ++ ['\n', '\n'] ∧ Unbroken paragraph ∧ Opens Inline words paragraph := by
  obtain ⟨found, _, rfl, inOrder, line, _, rfl, isRest, tail⟩ := takes
  obtain ⟨unbroken, opens⟩ := opens_of_takes plain inOrder
  obtain ⟨lines, -, -, indented, rfl⟩ := takes_indentedTail.mp tail
  refine ⟨found ++ (line ++ lines.flatten), by simp only [List.append_assoc], ?_, opens.append _⟩
  exact unbroken.append ((unbroken_of_plain (takes_restOfLine.mp isRest)).append (unbroken_indented indented))

theorem beforeEllipsis?_eq_some {head : List Char} (found : beforeEllipsis? message = some head) :
    message = head ++ ['.', '.', '.'] := by
  unfold beforeEllipsis? at found
  split at found
  next rest same =>
    obtain rfl := Option.some.inj found
    rw [← List.reverse_reverse message, same]
    simp
  · cases found

/-- The message is at the head of the text, and what ends a paragraph comes after it. -/
def Verbatim (message text : List Char) : Prop :=
  ∃ ending rest, text = trimNewlines message ++ (ending ++ rest) ∧ Ends ending rest

/-- How a message stands at the head of a text, with the piece it takes and what is left. By its words it takes the whole
paragraph; no word but the first starts a line there. -/
inductive Stands (message text : List Char) : Tier → (piece rest : List Char) → Prop where
  | exact {ending rest : List Char} (whole : text = trimNewlines message ++ (ending ++ rest)) (ends : Ends ending rest) :
      Stands message text .exact (trimNewlines message ++ ending) rest
  | words {paragraph ending rest : List Char} (worded : Text.words (trimNewlines message) ≠ [])
      (leads : LeadingParagraph text paragraph ending rest)
      (opens : Opens Inline (Text.words (trimNewlines message)) paragraph) :
      Stands message text .words (paragraph ++ ending) rest
  | ellipsis {head paragraph ending rest : List Char} (dots : trimNewlines message = head ++ ['.', '.', '.'])
      (leads : LeadingParagraph text paragraph ending rest) (opens : Opens Inline (Text.words head) paragraph) :
      Stands message text .ellipsis (paragraph ++ ending) rest

theorem stands_of_exact (takes : ((literal (trimNewlines message)).seq paragraphEnd).Takes [] piece rest) :
    Stands message (piece ++ rest) .exact piece rest := by
  obtain ⟨_, ending, rfl, taken, ends⟩ := takes
  obtain rfl := (takes_literal _).mp taken
  exact .exact (List.append_assoc ..) (takes_paragraphEnd.mp ends)

theorem stands_of_words (worded : Text.words (trimNewlines message) ≠ [])
    (takes : ((inOrder (Text.words (trimNewlines message))).seq (gap.seq paragraphEnd)).Takes [] piece rest) :
    Stands message (piece ++ rest) .words piece rest := by
  have plain := words_plain (trimNewlines message)
  obtain ⟨first, others, words⟩ := List.exists_cons_of_ne_nil worded
  rw [words] at takes plain
  obtain ⟨paragraph, ending, rfl, unbroken, opens, ends⟩ := (takes_words plain).mp takes
  exact .words worded ⟨List.append_assoc .., unbroken, takes_paragraphEnd.mp ends⟩ (words ▸ opens)

theorem stands_of_ellipsis {head : List Char} (dots : beforeEllipsis? (trimNewlines message) = some head)
    (takes : ((inOrder (Text.words head)).seq (restOfLine.seq indentedTail)).Takes [] piece rest) :
    Stands message (piece ++ rest) .ellipsis piece rest := by
  obtain ⟨paragraph, rfl, unbroken, opens⟩ := takes_ellipsis (words_plain head) takes
  exact .ellipsis (beforeEllipsis?_eq_some dots) ⟨List.append_assoc .., unbroken, .inl rfl⟩ opens

theorem stands_of_match? {tier : Tier} {stop : Cursor} (found : match? message text = some (tier, stop)) :
    ∃ piece rest, Stands message text tier piece rest ∧ text = piece ++ rest ∧ stop = .between piece rest := by
  obtain ⟨⟨tier', pattern⟩, candidate, matched⟩ := List.exists_of_findSome?_eq_some found
  obtain ⟨stop', led, same⟩ := Option.map_eq_some_iff.mp matched
  obtain ⟨rfl, rfl⟩ := Prod.mk.inj same
  obtain ⟨piece, rest, rfl, takes, rfl⟩ := piece_of_leading led
  refine ⟨piece, rest, ?_, rfl, rfl⟩
  simp only [candidates, List.mem_append, List.mem_singleton] at candidate
  obtain (isExact | isWords) | isEllipsis := candidate
  · cases isExact
    exact stands_of_exact takes
  · split at isWords
    · cases isWords
    next worded =>
      cases List.mem_singleton.mp isWords
      exact stands_of_words (fun wordless => worded (List.isEmpty_iff.mpr wordless)) takes
  · split at isEllipsis
    next dots =>
      cases List.mem_singleton.mp isEllipsis
      exact stands_of_ellipsis dots takes
    · cases isEllipsis

/-- The first tier comes before the others, whatever they would find. -/
theorem match?_exact (verbatim : Verbatim message text) : ∃ stop, match? message text = some (.exact, stop) := by
  obtain ⟨ending, rest, rfl, ends⟩ := verbatim
  have takes : ((literal (trimNewlines message)).seq paragraphEnd).Takes [] (trimNewlines message ++ ending) rest :=
    ⟨_, ending, rfl, (takes_literal _).mpr rfl, takes_paragraphEnd.mpr ends⟩
  obtain ⟨stop, led⟩ := leading_of_takes takes
  rw [List.append_assoc] at led
  refine ⟨stop, ?_⟩
  simp only [match?, candidates, List.cons_append, List.nil_append, List.findSome?_cons, led]
  rfl

theorem match?_words (worded : Text.words (trimNewlines message) ≠ []) {paragraph ending : List Char}
    (leads : LeadingParagraph text paragraph ending rest) (opens : Opens Inline (Text.words (trimNewlines message)) paragraph) :
    ∃ tier stop, (tier = .exact ∨ tier = .words) ∧ match? message text = some (tier, stop) := by
  obtain ⟨first, others, words⟩ := List.exists_cons_of_ne_nil worded
  have plain := words_plain (trimNewlines message)
  rw [words] at plain opens
  obtain ⟨rfl, unbroken, ends⟩ := leads
  have takes : ((inOrder (first :: others)).seq (gap.seq paragraphEnd)).Takes [] (paragraph ++ ending) rest :=
    (takes_words plain).mpr ⟨paragraph, ending, rfl, unbroken, opens, takes_paragraphEnd.mpr ends⟩
  obtain ⟨stop, led⟩ := leading_of_takes takes
  rw [List.append_assoc] at led
  simp only [match?, candidates, words, List.cons_append, List.nil_append, List.findSome?_cons]
  cases exactly : ((literal (trimNewlines message)).seq paragraphEnd).leading (paragraph ++ (ending ++ rest)) with
  | some earlier => exact ⟨.exact, earlier, .inl rfl, rfl⟩
  | none =>
    refine ⟨.words, stop, .inr rfl, ?_⟩
    simp only [List.isEmpty_cons, Bool.false_eq_true, if_false, List.cons_append, List.findSome?_cons, led]
    rfl

end Tier

namespace Diagnostics

open Text

variable {id : CaptureId} {message text : String} {now : Diagnostics}

/-- What asking for a message comes to. -/
inductive Asked (id : CaptureId) (message text : String) (now : Diagnostics) : Prop where
  /-- The piece the message stands for is taken out, and nothing else. -/
  | taken {tier : Tier} {piece rest : List Char} {next : Diagnostics} (whole : text.toList = piece ++ rest)
      (stands : Tier.Stands message.toList text.toList tier piece rest)
      (answered : now.handle (.assertMessage id message) = (.ok (some tier), next))
      (left : Records id (String.ofList rest) next) : Asked id message text now
  | refused {next : Diagnostics} (answered : now.handle (.assertMessage id message) =
        (.error (.mismatch (Text.quoted message ++ " did not match") message text), next))
      (left : Records id text next) : Asked id message text now

theorem Records.message_found {tier : Tier} {stop : Cursor} (records : Records id text now)
    (found : Tier.match? message.toList text.toList = some (tier, stop)) :
    ∃ next, now.handle (.assertMessage id message) = (.ok (some tier), next) ∧ Records id (String.ofList stop.rest) next := by
  have matched : Consumed.message message text = .ok ⟨tier, text.toList.take stop.offset, stop.rest⟩ := by
    simp only [Consumed.message, found]
  exact records.message_consumed matched

theorem Records.message_missed (records : Records id text now) (missed : Tier.match? message.toList text.toList = none) :
    ∃ next, now.handle (.assertMessage id message) =
      (.error (.mismatch (Text.quoted message ++ " did not match") message text), next) ∧ Records id text next := by
  apply records.message_refused
  simp only [Consumed.message, missed]

theorem Records.asked (records : Records id text now) (message : String) : Asked id message text now := by
  cases result : Tier.match? message.toList text.toList with
  | none =>
    obtain ⟨next, answered, left⟩ := records.message_missed result
    exact .refused answered left
  | some found =>
    obtain ⟨tier, stop⟩ := found
    obtain ⟨piece, rest, stands, whole, rfl⟩ := Tier.stands_of_match? result
    obtain ⟨next, answered, left⟩ := records.message_found result
    exact .taken whole stands answered left

/-- One capture is hooked, and this was written. -/
def holding (text : String) : Diagnostics := ((({} : Diagnostics).create {} .console).2.hook ⟨0⟩).write text

theorem records_holding (text : String) : Records ⟨0⟩ text (holding text) := by
  have hooked : Recording ⟨0⟩ "" ((({} : Diagnostics).create {} .console).2.hook ⟨0⟩) := recording_hook (by decide)
  have records := (hooked.write text).records
  rwa [String.empty_append] at records

/-- By its words a message is found in every paragraph that has them in order, unless one of them starts a line. -/
theorem Records.message_in_paragraph_iff (records : Records id text now)
    (worded : Text.words (Tier.trimNewlines message.toList) ≠ []) :
    (∃ tier next, (tier = .exact ∨ tier = .words) ∧ now.handle (.assertMessage id message) = (.ok (some tier), next)) ↔
      Tier.Verbatim message.toList text.toList ∨ ∃ paragraph ending rest, LeadingParagraph text.toList paragraph ending rest ∧
        Opens Inline (Text.words (Tier.trimNewlines message.toList)) paragraph := by
  constructor
  · rintro ⟨tier, next, isTier, answered⟩
    obtain ⟨-, stands, answered', -⟩ | ⟨answered', -⟩ := records.asked message
    · obtain ⟨answer, -⟩ := Prod.mk.inj (answered.symm.trans answered')
      cases answer
      cases stands with
      | exact whole ends => exact .inl ⟨_, _, whole, ends⟩
      | words _ leads opens => exact .inr ⟨_, _, _, leads, opens⟩
      | ellipsis => simp at isTier
    · obtain ⟨answer, -⟩ := Prod.mk.inj (answered.symm.trans answered')
      cases answer
  · rintro (verbatim | ⟨paragraph, ending, rest, leads, opens⟩)
    · obtain ⟨stop, found⟩ := Tier.match?_exact verbatim
      obtain ⟨next, answered, -⟩ := records.message_found found
      exact ⟨.exact, next, .inl rfl, answered⟩
    · obtain ⟨tier, stop, isTier, found⟩ := Tier.match?_words worded leads opens
      obtain ⟨next, answered, -⟩ := records.message_found found
      exact ⟨tier, next, isTier, answered⟩

/-- The line with the second word is indented, so the word does not start it. -/
theorem indented_word_found :
    let message := "task failed"
    let text := "task\n  failed at once\n\ntail\n"
    Records ⟨0⟩ text (holding text) ∧ Text.words (Tier.trimNewlines message.toList) ≠ [] ∧ ∃ tier next,
      (tier = .exact ∨ tier = .words) ∧ (holding text).handle (.assertMessage ⟨0⟩ message) = (.ok (some tier), next) := by
  intro message text
  have words : Text.words (Tier.trimNewlines message.toList) = ["task".toList, "failed".toList] := by decide
  have worded : Text.words (Tier.trimNewlines message.toList) ≠ [] := words ▸ List.cons_ne_nil _ _
  have leads : LeadingParagraph text.toList "task\n  failed at once".toList ['\n', '\n'] "tail\n".toList :=
    ⟨by decide, by decide, .inl rfl⟩
  have opens : Opens Inline ["task".toList, "failed".toList] "task\n  failed at once".toList :=
    ⟨_, rfl, "\n  ".toList, " at once".toList, by decide, by decide, trivial⟩
  have found := ((records_holding text).message_in_paragraph_iff worded).mpr (.inr ⟨_, _, _, leads, words ▸ opens⟩)
  exact ⟨records_holding text, worded, found⟩

/-- A paragraph has the words of a message in order, and the message is not found: the second word starts a line. -/
theorem word_at_line_start_missed :
    let message := "alpha beta"
    let text := "alpha\nbeta\n"
    Records ⟨0⟩ text (holding text) ∧ Text.words (Tier.trimNewlines message.toList) = ["alpha".toList, "beta".toList] ∧
      LeadingParagraph text.toList "alpha\nbeta".toList ['\n'] [] ∧
      Opens (fun _ => True) ["alpha".toList, "beta".toList] "alpha\nbeta".toList ∧
      ∃ next, (holding text).handle (.assertMessage ⟨0⟩ message) =
        (.error (.mismatch (Text.quoted message ++ " did not match") message text), next) := by
  intro message text
  have words : Text.words (Tier.trimNewlines message.toList) = ["alpha".toList, "beta".toList] := by decide
  have missed : Tier.match? message.toList text.toList = none := by
    refine Option.eq_none_iff_forall_ne_some.mpr fun (tier, stop) found => ?_
    obtain ⟨piece, left, stands, -, -⟩ := Tier.stands_of_match? found
    cases stands with
    | exact whole _ =>
      have ahead : Tier.trimNewlines message.toList <+: text.toList := ⟨_, whole.symm⟩
      revert ahead
      decide
    | @words _ ending _ _ leads opens =>
      rw [words] at opens
      obtain ⟨_, rfl, skipped, rest, rfl, inline, -⟩ := opens
      have whole := leads.whole
      simp only [List.append_assoc] at whole
      have divided : text.toList = "alpha".toList ++ "\nbeta\n".toList := by decide
      rw [divided] at whole
      have below : ['\n', 'b', 'e', 't', 'a', '\n'] = skipped ++ 'b' :: 'e' :: 't' :: 'a' :: (rest ++ (ending ++ left)) :=
        List.append_cancel_left whole
      -- The word is nowhere but behind the newline.
      obtain _ | ⟨c, _ | ⟨_, skipped⟩⟩ := skipped
      · cases below
      · obtain rfl := (List.cons.inj below).1
        exact inline rfl
      · have later : 'b' ∈ ['e', 't', 'a', '\n'] := by
          rw [(List.cons.inj (List.cons.inj below).2).2]
          exact List.mem_append_right _ (List.mem_cons_self ..)
        revert later
        decide
    | ellipsis dots _ _ =>
      have behind : ['.', '.', '.'] <:+ Tier.trimNewlines message.toList := ⟨_, dots.symm⟩
      revert behind
      decide
  obtain ⟨next, answered, -⟩ := (records_holding text).message_missed missed
  have leads : LeadingParagraph text.toList "alpha\nbeta".toList ['\n'] [] :=
    ⟨by decide, by decide, .inr ⟨rfl, rfl⟩⟩
  have opens : Opens (fun _ => True) ["alpha".toList, "beta".toList] "alpha\nbeta".toList :=
    ⟨"\nbeta".toList, by decide, ['\n'], [], by decide, trivial, trivial⟩
  exact ⟨records_holding text, words, leads, opens, next, answered⟩

end Diagnostics

end Testbench
