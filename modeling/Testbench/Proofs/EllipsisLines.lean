import Testbench.Proofs.MessageTiers

/-! Messages that end in an ellipsis, against a line and indented lines below it. The words may spread over the lines, so
there may be several ways to place them. Nothing is lost by the way they are searched for: the message is found if they can
be placed at all with two to five lines left between the last of them and the empty line. -/

namespace Testbench

namespace Text

/-- The words in order, with pieces that may be skipped between them and nothing around them. -/
def Spans (skips : List Char → Prop) : List (List Char) → List Char → Prop
  | [], text => text = []
  | [word], text => text = word
  | word :: next :: words, text =>
    ∃ skipped rest, text = word ++ (skipped ++ rest) ∧ skips skipped ∧ Spans skips (next :: words) rest

/-- A line starts with a blank if another line is before it. -/
def Indents (text : List Char) : Prop := text.IsChain fun c next => c = '\n' → next = ' '

variable {skips : List Char → Prop} {words : List (List Char)} {word left right text : List Char}

theorem Spans.head (spans : Spans skips (word :: words) text) : ∃ rest, text = word ++ rest := by
  cases words with
  | nil => exact ⟨[], by rw [List.append_nil]; exact spans⟩
  | cons next words =>
    obtain ⟨skipped, rest, rfl, -⟩ := spans
    exact ⟨skipped ++ rest, rfl⟩

theorem Spans.imp {others : List Char → Prop} (imp : ∀ skipped, skips skipped → others skipped)
    (spans : Spans skips words text) : Spans others words text := by
  induction words generalizing text with
  | nil => exact spans
  | cons word words ih =>
    cases words with
    | nil => exact spans
    | cons next words =>
      obtain ⟨skipped, rest, rfl, may, later⟩ := spans
      exact ⟨skipped, rest, rfl, imp skipped may, ih later⟩

theorem Indents.append (first : Indents left) (second : Indents right) (inline : Inline left) : Indents (left ++ right) :=
  List.IsChain.append first second fun _ last _ _ newline => absurd (newline ▸ last) inline

theorem indents_of_plain (plain : '\n' ∉ text) : Indents text := by
  induction text with
  | nil => exact .nil
  | cons c text ih =>
    rw [List.mem_cons, not_or] at plain
    exact List.isChain_cons.mpr ⟨fun _ _ newline => absurd newline.symm plain.1, ih plain.2⟩

theorem Indents.unbroken (indents : Indents text) (inline : Inline text) : Unbroken text := by
  have apart : text.IsChain fun c next => ¬ (c = '\n' ∧ next = '\n') := by
    refine List.IsChain.imp (fun c next indented both => ?_) indents
    have blank := indented both.1
    rw [both.2] at blank
    revert blank
    decide
  exact apart.append (.singleton _) fun _ last _ _ both => inline (both.1 ▸ last)

/-- Where lines are indented, no word starts one, so whatever is between two words may be skipped. -/
theorem Spans.unbroken (spans : Spans (fun _ => True) words text) (indents : Indents text)
    (unspaced : ∀ word ∈ words, word ≠ [] ∧ ' ' ∉ word) : Spans Unbroken words text := by
  induction words generalizing text with
  | nil => exact spans
  | cons word words ih =>
    cases words with
    | nil => exact spans
    | cons next words =>
      obtain ⟨skipped, rest, rfl, -, later⟩ := spans
      have others := fun word member => unspaced word (List.mem_cons_of_mem _ member)
      obtain ⟨-, below, -⟩ := List.isChain_append.mp indents
      obtain ⟨within, after, meets⟩ := List.isChain_append.mp below
      have inline : Inline skipped := by
        intro last
        obtain ⟨some, noSpace⟩ := others next (List.mem_cons_self ..)
        obtain ⟨c, letters, rfl⟩ := List.exists_cons_of_ne_nil some
        obtain ⟨right, rfl⟩ := later.head
        obtain rfl := meets '\n' last c rfl rfl
        exact noSpace (List.mem_cons_self ..)
      exact ⟨skipped, rest, rfl, Indents.unbroken within inline, ih later after others⟩

/-- There is one first empty line. -/
theorem paragraph_unique {paragraph other rest after : List Char} (unbroken : Unbroken paragraph) (also : Unbroken other)
    (same : paragraph ++ '\n' :: '\n' :: rest = other ++ '\n' :: '\n' :: after) : paragraph = other ∧ rest = after := by
  have notLonger {paragraph more rest after : List Char} (unbroken : Unbroken paragraph) (also : Unbroken (paragraph ++ more))
      (same : '\n' :: '\n' :: rest = more ++ '\n' :: '\n' :: after) : more = [] := by
    have within := ((unbroken_append unbroken.inline).mp also).2
    match more with
    | [] => rfl
    | [c] =>
      obtain ⟨rfl, -⟩ := List.cons.inj same
      exact absurd rfl within.inline
    | c :: next :: more =>
      obtain ⟨rfl, onward⟩ := List.cons.inj same
      obtain ⟨rfl, -⟩ := List.cons.inj onward
      exact absurd within not_unbroken_newline
  obtain ⟨more, rfl, onward⟩ | ⟨more, rfl, onward⟩ := List.append_eq_append_iff.mp same
  · obtain rfl := notLonger unbroken also onward
    simpa using onward
  · obtain rfl := notLonger also unbroken onward
    simpa using onward.symm

end Text

namespace Tier

open Pattern Text

variable {words lines : List (List Char)} {before piece rest first : List Char}

theorem takes_inOrder : (inOrder words).Takes before piece rest ↔ Spans Unbroken words piece := by
  induction words generalizing before piece with
  | nil => exact Iff.rfl
  | cons word words ih =>
    cases words with
    | nil => exact takes_literal word
    | cons next words =>
      have shape : inOrder (word :: next :: words) = (literal word).seq (gap.seq (inOrder (next :: words))) := rfl
      rw [shape, takes_after_word]
      constructor
      · rintro ⟨_, rfl, takes⟩
        obtain ⟨skipped, right, rfl, unbroken, takes⟩ := takes_after_gap.mp takes
        exact ⟨skipped, right, rfl, unbroken, ih.mp takes⟩
      · rintro ⟨skipped, right, rfl, unbroken, spans⟩
        exact ⟨_, rfl, takes_after_gap.mpr ⟨skipped, right, rfl, unbroken, ih.mpr spans⟩⟩

/-- The words are placed in order, the first of them at the very start, and these lines are below the line with the last. If
there are no words, the lines are below the first line. -/
def PlacedAbove (words : List (List Char)) (first : List Char) (lines below : List (List Char)) : Prop :=
  ∃ above found left, lines = above ++ below ∧ first ++ above.flatten = found ++ left ∧ '\n' ∉ left ∧
    Spans (fun _ => True) words found

/-- The words can be placed so that there are two to five lines below. -/
def Placed (words : List (List Char)) (first : List Char) (lines : List (List Char)) : Prop :=
  ∃ below, 2 ≤ below.length ∧ below.length ≤ 5 ∧ PlacedAbove words first lines below

theorem indentedBelow_iff {line : List Char} :
    IndentedBelow line ↔ line = '\n' :: ' ' :: line.drop 2 ∧ '\n' ∉ line.drop 2 := by
  constructor
  · rintro ⟨body, plain, rfl⟩
    exact ⟨rfl, plain⟩
  · rintro ⟨shown, plain⟩
    exact ⟨_, plain, shown⟩

instance (line : List Char) : Decidable (IndentedBelow line) := decidable_of_iff _ indentedBelow_iff.symm

theorem indents_lines (plain : '\n' ∉ first) (indented : ∀ line ∈ lines, IndentedBelow line) :
    Indents (first ++ lines.flatten) := by
  refine (indents_of_plain plain).append ?_ (inline_of_plain plain)
  clear plain
  induction lines with
  | nil => exact .nil
  | cons line lines ih =>
    obtain ⟨isIndented, others⟩ := List.forall_mem_cons.mp indented
    have inline := isIndented.unbroken.inline
    obtain ⟨body, noNewline, rfl⟩ := isIndented
    have blank : Indents (' ' :: body) := indents_of_plain (by simpa using noNewline)
    have line : Indents ('\n' :: ' ' :: body) := List.isChain_cons_cons.mpr ⟨fun _ => rfl, blank⟩
    exact line.append (ih others) inline

/-- Two texts that end in a plain piece after a newline agree on both. -/
theorem last_line_unique {left right body other : List Char} (plain : '\n' ∉ body) (also : '\n' ∉ other)
    (same : left ++ '\n' :: body = right ++ '\n' :: other) : left = right ∧ body = other := by
  have notLonger {body more other : List Char} (plain : '\n' ∉ body) (same : '\n' :: body = more ++ '\n' :: other) :
      more = [] := by
    cases more with
    | nil => rfl
    | cons c more =>
      obtain ⟨-, rfl⟩ := List.cons.inj same
      exact absurd (List.mem_append_right more (List.mem_cons_self ..)) plain
  obtain ⟨more, rfl, onward⟩ | ⟨more, rfl, onward⟩ := List.append_eq_append_iff.mp same
  · obtain rfl := notLonger plain onward
    simpa using onward
  · obtain rfl := notLonger also onward
    simpa using onward.symm

/-- A text that ends in indented lines has them as the last of its lines. -/
theorem lines_below {below : List (List Char)} {above : List Char} (plain : '\n' ∉ first)
    (indented : ∀ line ∈ lines, IndentedBelow line) (also : ∀ line ∈ below, IndentedBelow line)
    (same : above ++ below.flatten = first ++ lines.flatten) :
    ∃ others, lines = others ++ below ∧ above = first ++ others.flatten := by
  induction below using List.reverseRecOn generalizing lines with
  | nil => exact ⟨lines, (List.append_nil _).symm, by simpa using same⟩
  | append_singleton below line ih =>
    obtain ⟨others, isIndented⟩ := List.forall_mem_append.mp also
    obtain ⟨body, noNewline, rfl⟩ := isIndented _ (List.mem_singleton_self _)
    rw [List.flatten_append, List.flatten_singleton, ← List.append_assoc] at same
    obtain rfl | ⟨upper, last, rfl⟩ := List.eq_nil_or_concat' lines
    · have member : '\n' ∈ first := by
        rw [List.flatten_nil, List.append_nil] at same
        rw [← same]
        exact List.mem_append_right _ (List.mem_cons_self ..)
      exact absurd member plain
    · obtain ⟨indented', isIndented'⟩ := List.forall_mem_append.mp indented
      obtain ⟨body', noNewline', rfl⟩ := isIndented' _ (List.mem_singleton_self _)
      rw [List.flatten_append, List.flatten_singleton, ← List.append_assoc] at same
      obtain ⟨shorter, sameBody⟩ := last_line_unique (by simpa using noNewline) (by simpa using noNewline') same
      obtain ⟨front, rfl, rfl⟩ := ih indented' others shorter
      exact ⟨front, by rw [sameBody, List.append_assoc], rfl⟩

/-- What the words and the lines after them take are the lines of the text, up to the empty one. -/
theorem placed_of_takes (plain : '\n' ∉ first) (indented : ∀ line ∈ lines, IndentedBelow line)
    (plainWords : ∀ word ∈ words, IsPlainWord word) {left : List Char}
    (takes : ((inOrder words).seq (restOfLine.seq indentedTail)).Takes [] piece left)
    (whole : piece ++ left = first ++ (lines.flatten ++ '\n' :: '\n' :: rest)) : Placed words first lines ∧ left = rest := by
  obtain ⟨found, _, rfl, isFound, line, _, rfl, isRest, tail⟩ := takes
  obtain ⟨below, some, fewer, also, rfl⟩ := takes_indentedTail.mp tail
  have noNewline := takes_restOfLine.mp isRest
  obtain ⟨unbroken, -⟩ := opens_of_takes plainWords isFound
  have taken : Unbroken (found ++ line ++ below.flatten) :=
    (unbroken.append (unbroken_of_plain noNewline)).append (unbroken_indented also)
  have given : Unbroken (first ++ lines.flatten) := (unbroken_of_plain plain).append (unbroken_indented indented)
  obtain ⟨same, rfl⟩ := paragraph_unique taken given (by
    simpa only [List.append_assoc, List.cons_append, List.nil_append] using whole)
  obtain ⟨above, rfl, shown⟩ := lines_below plain indented also same
  have spans := (takes_inOrder.mp isFound).imp fun _ _ => trivial
  exact ⟨⟨below, some, fewer, above, found, line, rfl, shown.symm, noNewline, spans⟩, rfl⟩

theorem takes_of_placed (plain : '\n' ∉ first) (indented : ∀ line ∈ lines, IndentedBelow line)
    (unspaced : ∀ word ∈ words, word ≠ [] ∧ ' ' ∉ word) (placed : Placed words first lines) (rest : List Char) :
    ((inOrder words).seq (restOfLine.seq indentedTail)).Takes [] (first ++ (lines.flatten ++ ['\n', '\n'])) rest := by
  obtain ⟨below, some, fewer, above, found, left, rfl, shown, noNewline, spans⟩ := placed
  have indents := indents_lines plain indented
  rw [List.flatten_append, ← List.append_assoc, shown] at indents
  have spans := spans.unbroken (List.isChain_append.mp (List.isChain_append.mp indents).1).1 unspaced
  have also := (List.forall_mem_append.mp indented).2
  refine ⟨found, left ++ (below.flatten ++ ['\n', '\n']), ?_, takes_inOrder.mpr spans, left, _, rfl,
    takes_restOfLine.mpr noNewline, takes_indentedTail.mpr ⟨below, some, fewer, also, rfl⟩⟩
  rw [List.flatten_append, List.append_assoc, ← List.append_assoc, shown, List.append_assoc]

variable {message text head : List Char}

theorem beforeEllipsis?_append (head : List Char) : beforeEllipsis? (head ++ ['.', '.', '.']) = some head := by
  simp [beforeEllipsis?]

theorem trimNewlines_ellipsis (head : List Char) : trimNewlines (head ++ ['.', '.', '.']) = head ++ ['.', '.', '.'] :=
  trimNewlines_eq_self (by simp)

/-- The last tier of a message that ends in an ellipsis is found by the words before it. -/
theorem leading_of_match? {stop : Cursor} (found : match? (head ++ ['.', '.', '.']) text = some (.ellipsis, stop)) :
    ((inOrder (Text.words head)).seq (restOfLine.seq indentedTail)).leading text = some stop := by
  obtain ⟨⟨tier, pattern⟩, candidate, matched⟩ := List.exists_of_findSome?_eq_some found
  obtain ⟨stop', led, same⟩ := Option.map_eq_some_iff.mp matched
  obtain ⟨rfl, rfl⟩ := Prod.mk.inj same
  rw [candidates, trimNewlines_ellipsis, beforeEllipsis?_append] at candidate
  simp only [List.mem_append, List.mem_singleton, Prod.mk.injEq] at candidate
  obtain (⟨⟨⟩, -⟩ | isWords) | ⟨-, rfl⟩ := candidate
  · split at isWords
    · cases isWords
    · cases List.mem_singleton.mp isWords
  · exact led

/-- It is tried at least, if no other tier is found. -/
theorem not_leading_of_match?_none (missed : match? (head ++ ['.', '.', '.']) text = none) :
    ((inOrder (Text.words head)).seq (restOfLine.seq indentedTail)).leading text = none := by
  refine Option.map_eq_none_iff.mp (List.findSome?_eq_none_iff.mp missed (.ellipsis, _) ?_)
  rw [candidates, trimNewlines_ellipsis, beforeEllipsis?_append]
  exact List.mem_append_right _ (List.mem_singleton_self _)

end Tier

namespace Diagnostics

open Text

variable {id : CaptureId} {message text : String} {now : Diagnostics} {head first rest : List Char}
  {lines : List (List Char)}

/-- Against a line with indented lines below it and an empty line, a message that ends in an ellipsis and is found in no
other tier is found exactly if its words can be placed so that the last of them has two to five of the lines below it. -/
theorem Records.ellipsis_counts_lines (records : Records id text now) (dots : message.toList = head ++ ['.', '.', '.'])
    (shape : text.toList = first ++ (lines.flatten ++ '\n' :: '\n' :: rest)) (plain : '\n' ∉ first)
    (indented : ∀ line ∈ lines, Tier.IndentedBelow line)
    (noOther : ∀ tier next, now.handle (.assertMessage id message) = (.ok (some tier), next) → tier = .ellipsis) :
    ((∃ next, now.handle (.assertMessage id message) = (.ok (some .ellipsis), next) ∧
        Records id (String.ofList rest) next) ↔ Tier.Placed (Text.words head) first lines) ∧
      (¬ Tier.Placed (Text.words head) first lines → ∃ next, now.handle (.assertMessage id message) =
        (.error (.mismatch (Text.quoted message ++ " did not match") message text), next) ∧ Records id text next) := by
  have found_of_placed (placed : Tier.Placed (Text.words head) first lines) :
      ∃ stop, ((Tier.inOrder (Text.words head)).seq (.seq .restOfLine Tier.indentedTail)).leading text.toList = some stop := by
    have led := Pattern.leading_of_takes (Tier.takes_of_placed plain indented (not_mem_word (by decide)) placed rest)
    rw [shape]
    simpa only [List.append_assoc, List.cons_append, List.nil_append] using led
  cases result : Tier.match? message.toList text.toList with
  | none =>
    obtain ⟨next, answered, left⟩ := records.message_missed result
    have unplaced : ¬ Tier.Placed (Text.words head) first lines := by
      intro placed
      obtain ⟨stop, led⟩ := found_of_placed placed
      rw [dots] at result
      cases led.symm.trans (Tier.not_leading_of_match?_none result)
    refine ⟨⟨fun ⟨other, answered', _⟩ => ?_, fun placed => absurd placed unplaced⟩, fun _ => ⟨next, answered, left⟩⟩
    cases (Prod.mk.inj (answered.symm.trans answered')).1
  | some found =>
    obtain ⟨tier, stop⟩ := found
    obtain ⟨next, answered, left⟩ := records.message_found result
    obtain rfl := noOther tier next answered
    rw [dots] at result
    obtain ⟨piece, after, whole, takes, rfl⟩ := Pattern.piece_of_leading (Tier.leading_of_match? result)
    obtain ⟨placed, rfl⟩ := Tier.placed_of_takes plain indented (words_plain head) takes (whole ▸ shape)
    exact ⟨⟨fun _ => placed, fun _ => ⟨next, answered, left⟩⟩, fun unplaced => absurd placed unplaced⟩

/-- Seven lines are too many below the first place of the second word, and five are not below the other. -/
theorem second_place_found :
    let message := "task failed ..."
    let head := "task failed ".toList
    let lines := ["\n 1", "\n failed 2", "\n 3", "\n 4", "\n 5", "\n 6", "\n 7"].map String.toList
    let text := "task failed\n 1\n failed 2\n 3\n 4\n 5\n 6\n 7\n\ntail\n"
    Records ⟨0⟩ text (holding text) ∧ Tier.Placed (Text.words head) "task failed".toList lines ∧
      (∀ tier next, (holding text).handle (.assertMessage ⟨0⟩ message) = (.ok (some tier), next) → tier = .ellipsis) ∧
      ∃ next, (holding text).handle (.assertMessage ⟨0⟩ message) = (.ok (some .ellipsis), next) ∧
        Records ⟨0⟩ "tail\n" next := by
  intro message head lines text
  have records := records_holding text
  have words : Text.words head = ["task".toList, "failed".toList] := by decide
  have placed : Tier.Placed (Text.words head) "task failed".toList lines := by
    rw [words]
    refine ⟨lines.drop 2, by decide, by decide, lines.take 2, "task failed\n 1\n failed".toList, " 2".toList, rfl, by decide,
      by decide, " failed\n 1\n ".toList, "failed".toList, by decide, trivial, rfl⟩
  have indented : ∀ line ∈ lines, Tier.IndentedBelow line := by decide
  have noOther : ∀ tier next, (holding text).handle (.assertMessage ⟨0⟩ message) = (.ok (some tier), next) →
      tier = .ellipsis := by
    intro tier next answered
    obtain ⟨-, stands, answered', -⟩ | ⟨answered', -⟩ := records.asked message
    · cases (Prod.mk.inj (answered.symm.trans answered')).1
      cases stands with
      | exact whole _ =>
        have ahead : Tier.trimNewlines message.toList <+: text.toList := ⟨_, whole.symm⟩
        revert ahead
        decide
      | words _ leads opens =>
        have asked : Text.words (Tier.trimNewlines message.toList) = ["task".toList, "failed".toList, "...".toList] := by
          decide
        rw [asked] at opens
        obtain ⟨_, rfl, _, _, rfl, -, _, _, rfl, -, -⟩ := opens
        have dot : '.' ∈ text.toList := by
          rw [leads.whole]
          simp
        revert dot
        decide
      | ellipsis => rfl
    · cases (Prod.mk.inj (answered.symm.trans answered')).1
  have dots : message.toList = head ++ ['.', '.', '.'] := by decide
  have shape : text.toList = "task failed".toList ++ (lines.flatten ++ '\n' :: '\n' :: "tail\n".toList) := by decide
  have counted := (records.ellipsis_counts_lines dots shape (by decide) indented noOther).1.mpr placed
  exact ⟨records, placed, noOther, counted⟩

end Diagnostics

end Testbench
