import Mathlib.Data.List.Chain
import Testbench.Proofs.ChainedAssertions

/-! Paragraphs, and words in order within them. Between two words of a message anything may be skipped that has no
empty line and does not end with a newline, so a message is found by its words in the paragraph at the head of a text,
if none of the words after the first starts a line there. -/

namespace Testbench

namespace Text

/-- No newline follows another, and none would if a newline came after the text. -/
def Unbroken (text : List Char) : Prop := (text ++ ['\n']).IsChain fun c next => ¬ (c = '\n' ∧ next = '\n')

/-- What comes after it does not start a line. -/
def Inline (text : List Char) : Prop := text.getLast? ≠ some '\n'

instance (text : List Char) : Decidable (Unbroken text) :=
  inferInstanceAs (Decidable ((text ++ ['\n']).IsChain fun c next => ¬ (c = '\n' ∧ next = '\n')))

instance (text : List Char) : Decidable (Inline text) := inferInstanceAs (Decidable (text.getLast? ≠ some '\n'))

/-- The newlines that end a paragraph: two in a row, or one at the end of the text. -/
def Ends (ending rest : List Char) : Prop := ending = ['\n', '\n'] ∨ ending = ['\n'] ∧ rest = []

/-- The text before the first two newlines in a row, or before the final newline if there are no such two. -/
structure LeadingParagraph (text paragraph ending rest : List Char) : Prop where
  whole : text = paragraph ++ (ending ++ rest)
  unbroken : Unbroken paragraph
  ends : Ends ending rest

/-- The words follow in order, none of them over another, each after a piece that may be skipped. -/
def InOrder (skips : List Char → Prop) : List (List Char) → List Char → Prop
  | [], _ => True
  | word :: words, text => ∃ skipped rest, text = skipped ++ (word ++ rest) ∧ skips skipped ∧ InOrder skips words rest

/-- The first of the words is at the head of the text, and the others follow in order. -/
def Opens (skips : List Char → Prop) : List (List Char) → List Char → Prop
  | [], _ => True
  | word :: words, text => ∃ rest, text = word ++ rest ∧ InOrder skips words rest

variable {skips : List Char → Prop} {words : List (List Char)} {word left right text : List Char}

theorem inline_of_plain (plain : '\n' ∉ text) : Inline text :=
  fun last => plain (List.mem_of_getLast? last)

theorem unbroken_append (inline : Inline left) : Unbroken (left ++ right) ↔ Unbroken left ∧ Unbroken right := by
  have apart (next : Char) : ∀ c ∈ left.getLast?, ¬ (c = '\n' ∧ next = '\n') :=
    fun c last both => inline (both.1 ▸ last)
  unfold Unbroken
  rw [List.append_assoc]
  constructor
  · intro chain
    obtain ⟨first, second, -⟩ := List.isChain_append.mp chain
    exact ⟨first.append (.singleton _) fun c last next _ => apart next c last, second⟩
  · rintro ⟨first, second⟩
    exact first.left_of_append.append second fun c last next _ => apart next c last

theorem Unbroken.inline (unbroken : Unbroken text) : Inline text :=
  fun last => (List.isChain_append.mp unbroken).2.2 '\n' last '\n' rfl ⟨rfl, rfl⟩

theorem Unbroken.append (first : Unbroken left) (second : Unbroken right) : Unbroken (left ++ right) :=
  (unbroken_append first.inline).mpr ⟨first, second⟩

theorem unbroken_of_plain (plain : '\n' ∉ text) : Unbroken text := by
  induction text with
  | nil => exact .singleton _
  | cons c text ih =>
    rw [List.mem_cons, not_or] at plain
    exact List.isChain_cons.mpr ⟨fun _ _ both => plain.1 both.1.symm, ih plain.2⟩

theorem not_unbroken_newline : ¬ Unbroken ('\n' :: '\n' :: text) :=
  fun unbroken => (List.isChain_cons_cons.mp unbroken).1 ⟨rfl, rfl⟩

theorem unbroken_newline {c : Char} (plain : c ≠ '\n') : Unbroken ['\n', c] := by
  have own : Unbroken [c] := unbroken_of_plain (by simpa using plain.symm)
  exact List.isChain_cons_cons.mpr ⟨fun both => plain both.2, own⟩

theorem InOrder.append (inOrder : InOrder skips words left) (right : List Char) : InOrder skips words (left ++ right) := by
  induction words generalizing left with
  | nil => trivial
  | cons word words ih =>
    obtain ⟨skipped, rest, rfl, may, later⟩ := inOrder
    exact ⟨skipped, rest ++ right, by simp only [List.append_assoc], may, ih later⟩

theorem Opens.append (opens : Opens skips words left) (right : List Char) : Opens skips words (left ++ right) := by
  cases words with
  | nil => trivial
  | cons word words =>
    obtain ⟨rest, rfl, later⟩ := opens
    exact ⟨rest ++ right, List.append_assoc .., later.append right⟩

/-- The first word has something that may be skipped before it. -/
theorem inOrder_cons : InOrder skips (word :: words) text ↔
    ∃ skipped rest, text = skipped ++ rest ∧ skips skipped ∧ Opens skips (word :: words) rest := by
  constructor
  · rintro ⟨skipped, rest, same, may, later⟩
    exact ⟨skipped, word ++ rest, same, may, rest, rfl, later⟩
  · rintro ⟨skipped, _, same, may, rest, rfl, later⟩
    exact ⟨skipped, rest, same, may, later⟩

theorem eq_false_of_mem_splitOnP {stops : Char → Bool} {part : List Char} (member : part ∈ text.splitOnP stops) :
    ∀ c ∈ part, stops c = false := by
  induction text generalizing part with
  | nil =>
    obtain rfl := List.mem_singleton.mp member
    simp
  | cons c text ih =>
    obtain ⟨first, others, split⟩ := List.exists_cons_of_ne_nil (List.splitOnP_ne_nil stops text)
    rw [List.splitOnP_cons_eq_if_modifyHead, split] at member
    rw [split] at ih
    by_cases stop : stops c = true
    · rw [if_pos stop] at member
      obtain rfl | later := List.mem_cons.mp member
      · simp
      · exact ih later
    · rw [if_neg stop, List.modifyHead_cons] at member
      obtain rfl | later := List.mem_cons.mp member
      · exact List.forall_mem_cons.mpr ⟨Bool.eq_false_iff.mpr stop, ih (List.mem_cons_self ..)⟩
      · exact ih (List.mem_cons_of_mem _ later)

theorem not_mem_word {c : Char} (blank : isBlank c = true) : ∀ word ∈ Text.words text, word ≠ [] ∧ c ∉ word := by
  intro word member
  obtain ⟨part, nonempty⟩ := List.mem_filter.mp member
  refine ⟨of_decide_eq_true nonempty, fun inside => ?_⟩
  rw [eq_false_of_mem_splitOnP part c inside] at blank
  cases blank

/-- What a message is split into. -/
def IsPlainWord (word : List Char) : Prop := word ≠ [] ∧ '\n' ∉ word

theorem words_plain (text : List Char) : ∀ word ∈ Text.words text, IsPlainWord word := not_mem_word (by decide)

end Text

namespace Tier

open Pattern Text

variable {before piece rest : List Char} {words : List (List Char)} {first : List Char}

theorem takes_seq_assoc {first second third : Pattern} :
    ((first.seq second).seq third).Takes before piece rest ↔ (first.seq (second.seq third)).Takes before piece rest := by
  constructor
  · rintro ⟨_, last, rfl, ⟨left, middle, rfl, takes, takes'⟩, takes''⟩
    refine ⟨left, middle ++ last, List.append_assoc .., ?_, middle, last, rfl, takes', ?_⟩
    · rwa [List.append_assoc]
    · rwa [List.append_assoc]
  · rintro ⟨left, _, rfl, takes, middle, last, rfl, takes', takes''⟩
    refine ⟨left ++ middle, last, (List.append_assoc ..).symm, ⟨left, middle, rfl, ?_, takes'⟩, ?_⟩
    · rwa [List.append_assoc] at takes
    · rwa [List.append_assoc] at takes''

/-- What a gap takes in one go. -/
def gapStep : Pattern := .either .notNewline (.seq .newline .notNewline)

theorem takes_gapStep : gapStep.Takes before piece rest ↔
    ∃ c, c ≠ '\n' ∧ (piece = [c] ∨ piece = ['\n', c]) := by
  constructor
  · rintro (⟨c, rfl, plain⟩ | ⟨_, _, rfl, newline, c, rfl, plain⟩)
    · exact ⟨c, bne_iff_ne.mp plain, .inl rfl⟩
    · rw [takes_newline.mp newline]
      exact ⟨c, bne_iff_ne.mp plain, .inr rfl⟩
  · rintro ⟨c, plain, rfl | rfl⟩
    · exact .inl ⟨c, rfl, bne_iff_ne.mpr plain⟩
    · exact .inr ⟨['\n'], [c], rfl, takes_newline.mpr rfl, c, rfl, bne_iff_ne.mpr plain⟩

theorem repeated_of_unbroken {before rest : List Char} : ∀ {piece : List Char}, Unbroken piece →
    Repeated gapStep.Takes before piece rest
  | [], _ => .none
  | c :: others, unbroken => by
    by_cases plain : c = '\n'
    · subst plain
      match others, unbroken with
      | [], unbroken => exact absurd rfl unbroken.inline
      | next :: others, unbroken =>
        have isPlain : next ≠ '\n' := fun same => not_unbroken_newline (same ▸ unbroken)
        have inline : Inline ['\n', next] := by simpa [Inline] using isPlain
        have later := ((unbroken_append inline).mp unbroken).2
        have taken : gapStep.Takes before ['\n', next] (others ++ rest) := takes_gapStep.mpr ⟨next, isPlain, .inr rfl⟩
        exact .more taken (List.cons_ne_nil _ _) (repeated_of_unbroken later)
    · have inline : Inline [c] := by simpa [Inline] using plain
      have later := ((unbroken_append inline).mp unbroken).2
      have taken : gapStep.Takes before [c] (others ++ rest) := takes_gapStep.mpr ⟨c, plain, .inl rfl⟩
      exact .more taken (List.cons_ne_nil _ _) (repeated_of_unbroken later)

theorem takes_gap : gap.Takes before piece rest ↔ Unbroken piece := by
  refine ⟨fun repeated => ?_, repeated_of_unbroken⟩
  change Repeated gapStep.Takes before piece rest at repeated
  induction repeated with
  | none => exact .singleton _
  | more taken _ _ ih =>
    refine Unbroken.append ?_ ih
    obtain ⟨c, plain, rfl | rfl⟩ := takes_gapStep.mp taken
    · exact unbroken_of_plain (by simpa using plain.symm)
    · exact unbroken_newline plain

theorem takes_after_word {more : Pattern} (word : List Char) : (Pattern.seq (.literal word) more).Takes before piece rest ↔
    ∃ right, piece = word ++ right ∧ more.Takes (before ++ word) right rest := by
  constructor
  · rintro ⟨_, right, rfl, isWord, takes⟩
    obtain rfl := (takes_literal word).mp isWord
    exact ⟨right, rfl, takes⟩
  · rintro ⟨right, rfl, takes⟩
    exact ⟨word, right, rfl, (takes_literal word).mpr rfl, takes⟩

theorem takes_after_gap {more : Pattern} : (gap.seq more).Takes before piece rest ↔
    ∃ skipped right, piece = skipped ++ right ∧ Unbroken skipped ∧ more.Takes (before ++ skipped) right rest :=
  exists_congr fun _ => exists_congr fun _ => and_congr_right fun _ => and_congr_left fun _ => takes_gap

theorem takes_inOrder_cons {more : Pattern} (first next : List Char) (words : List (List Char)) :
    ((inOrder (first :: next :: words)).seq more).Takes before piece rest ↔ ∃ skipped right, piece = first ++ (skipped ++ right) ∧
      Unbroken skipped ∧ ((inOrder (next :: words)).seq more).Takes (before ++ first ++ skipped) right rest := by
  have shape : inOrder (first :: next :: words) = (literal first).seq (gap.seq (inOrder (next :: words))) := rfl
  rw [shape, takes_seq_assoc, takes_after_word]
  constructor
  · rintro ⟨_, rfl, takes⟩
    obtain ⟨skipped, right, rfl, unbroken, takes⟩ := takes_after_gap.mp (takes_seq_assoc.mp takes)
    exact ⟨skipped, right, rfl, unbroken, takes⟩
  · rintro ⟨skipped, right, rfl, unbroken, takes⟩
    exact ⟨skipped ++ right, rfl, takes_seq_assoc.mpr (takes_after_gap.mpr ⟨skipped, right, rfl, unbroken, takes⟩)⟩

/-- Words with gaps between them and after the last take a text without an empty line in which no word but the first
starts a line. -/
theorem takes_words (plain : ∀ word ∈ first :: words, IsPlainWord word) {last : Pattern} :
    ((inOrder (first :: words)).seq (gap.seq last)).Takes before piece rest ↔
      ∃ paragraph ending, piece = paragraph ++ ending ∧ Unbroken paragraph ∧ Opens Inline (first :: words) paragraph ∧
        last.Takes (before ++ paragraph) ending rest := by
  have isPlain := (plain first (List.mem_cons_self ..)).2
  induction words generalizing first before piece with
  | nil =>
    refine (takes_after_word first).trans ⟨?_, ?_⟩
    · rintro ⟨_, rfl, takes⟩
      obtain ⟨skipped, ending, rfl, unbroken, takes⟩ := takes_after_gap.mp takes
      refine ⟨first ++ skipped, ending, (List.append_assoc ..).symm, ?_, ⟨skipped, rfl, trivial⟩, ?_⟩
      · exact (unbroken_of_plain isPlain).append unbroken
      · rwa [← List.append_assoc]
    · rintro ⟨_, ending, rfl, unbroken, ⟨skipped, rfl, -⟩, takes⟩
      refine ⟨skipped ++ ending, List.append_assoc .., takes_after_gap.mpr ⟨skipped, ending, rfl, ?_, ?_⟩⟩
      · exact ((unbroken_append (inline_of_plain isPlain)).mp unbroken).2
      · rwa [List.append_assoc]
  | cons next words ih =>
    have others := fun word member => plain word (List.mem_cons_of_mem _ member)
    rw [takes_inOrder_cons]
    constructor
    · rintro ⟨skipped, _, rfl, unbroken, takes⟩
      obtain ⟨paragraph, ending, rfl, within, opens, takes⟩ := (ih others (others next (List.mem_cons_self ..)).2).mp takes
      refine ⟨first ++ (skipped ++ paragraph), ending, by simp only [List.append_assoc], ?_, ?_, ?_⟩
      · exact (unbroken_of_plain isPlain).append (unbroken.append within)
      · exact ⟨_, rfl, inOrder_cons.mpr ⟨skipped, paragraph, rfl, unbroken.inline, opens⟩⟩
      · simpa only [List.append_assoc] using takes
    · rintro ⟨_, ending, rfl, unbroken, ⟨_, rfl, inOrder⟩, takes⟩
      obtain ⟨skipped, paragraph, rfl, inline, opens⟩ := inOrder_cons.mp inOrder
      obtain ⟨unbroken, within⟩ := (unbroken_append inline).mp ((unbroken_append (inline_of_plain isPlain)).mp unbroken).2
      refine ⟨skipped, paragraph ++ ending, by simp only [List.append_assoc], unbroken, ?_⟩
      refine (ih others (others next (List.mem_cons_self ..)).2).mpr ⟨paragraph, ending, rfl, within, opens, ?_⟩
      simpa only [List.append_assoc] using takes

end Tier

end Testbench
