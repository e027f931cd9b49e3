import Testbench.Proofs.Utf8Heads

/-! Reading bytes from the left. The text of bytes that need not be well formed is said once, without the reader:
characters stand for themselves, and each maximal invalid sequence for one replacement character. The reader finds
exactly this text, and reading can stop anywhere and go on from the tail that was left. -/

namespace Testbench

namespace Text.Utf8

open String (utf8EncodeChar)

section

variable {bytes rest : List UInt8} {c : Char}

theorem length_lt_of_char (char : head bytes = .char c rest) : rest.length < bytes.length := by
  rw [eq_of_head_char char, List.length_append, String.length_utf8EncodeChar]
  have := c.utf8Size_pos
  omega

theorem length_lt_of_malformed (malformed : head bytes = .malformed rest) : rest.length < bytes.length := by
  generalize same : head bytes = start at malformed
  cases same ▸ seen bytes with
  | alone least range =>
    obtain rfl := Head.malformed.inj malformed
    simp
  | refused opens refused =>
    obtain rfl := Head.malformed.inj malformed
    have := List.length_pos_iff.2 opens.ne_nil
    simp only [List.length_append]
    omega
  | _ => nomatch malformed

/-- Reading goes by what the bytes start with. -/
theorem head_induction {motive : List UInt8 → Prop} (done : motive [])
    (char : ∀ {bytes c rest}, head bytes = .char c rest → motive rest → motive bytes)
    (malformed : ∀ {bytes rest}, head bytes = .malformed rest → motive rest → motive bytes)
    (unfinished : ∀ {bytes}, Opens bytes → motive bytes) (bytes : List UInt8) : motive bytes := by
  induction size : bytes.length using Nat.strongRecOn generalizing bytes with
  | _ size shorter =>
    subst size
    cases start : head bytes with
    | done =>
      cases start ▸ seen bytes with
      | done => exact done
    | char c rest => exact char start (shorter _ (length_lt_of_char start) rest rfl)
    | malformed rest => exact malformed start (shorter _ (length_lt_of_malformed start) rest rfl)
    | unfinished =>
      cases start ▸ seen bytes with
      | unfinished opens => exact unfinished opens

/-- More steps than bytes make no difference. -/
theorem decodeSteps_agree {steps more : Nat} (enough : bytes.length ≤ steps) (also : bytes.length ≤ more) :
    decodeSteps steps bytes = decodeSteps more bytes := by
  induction steps generalizing bytes more with
  | zero =>
    obtain rfl := List.length_eq_zero_iff.1 (Nat.le_zero.1 enough)
    cases more <;> rfl
  | succ steps steps_ih =>
    cases more with
    | zero =>
      obtain rfl := List.length_eq_zero_iff.1 (Nat.le_zero.1 also)
      rfl
    | succ more =>
      unfold decodeSteps
      split
      next => rfl
      next c rest start =>
        have shorter := length_lt_of_char start
        rw [@steps_ih rest more (by omega) (by omega)]
      next rest start =>
        have shorter := length_lt_of_malformed start
        rw [@steps_ih rest more (by omega) (by omega)]
      next => rfl

theorem decode_eq_succ (bytes : List UInt8) : decode bytes = decodeSteps (bytes.length + 1) bytes :=
  decodeSteps_agree (Nat.le_refl _) (Nat.le_succ _)

theorem decode_nil : decode [] = ([], []) := rfl

theorem decode_char (start : head bytes = .char c rest) : decode bytes = (c :: (decode rest).1, (decode rest).2) := by
  have steps := decodeSteps_agree (Nat.le_of_lt (length_lt_of_char start)) (Nat.le_refl rest.length)
  rw [decode_eq_succ, decodeSteps, start]
  simp only [steps]
  rfl

theorem decode_malformed (start : head bytes = .malformed rest) :
    decode bytes = (replacement :: (decode rest).1, (decode rest).2) := by
  have steps := decodeSteps_agree (Nat.le_of_lt (length_lt_of_malformed start)) (Nat.le_refl rest.length)
  rw [decode_eq_succ, decodeSteps, start]
  simp only [steps]
  rfl

theorem Opens.decode (opens : Opens bytes) : decode bytes = ([], bytes) := by
  rw [decode_eq_succ, decodeSteps, head_opens opens]

theorem head_append_of_char (start : head bytes = .char c rest) (more : List UInt8) :
    head (bytes ++ more) = .char c (rest ++ more) := by
  rw [eq_of_head_char start, List.append_assoc, head_encode]

theorem head_append_of_malformed (start : head bytes = .malformed rest) (more : List UInt8) :
    head (bytes ++ more) = .malformed (rest ++ more) := by
  generalize same : head bytes = found at start
  cases same ▸ seen bytes with
  | alone least range rest =>
    obtain rfl := Head.malformed.inj start
    exact head_alone least range (rest ++ more)
  | refused opens refused rest =>
    obtain rfl := Head.malformed.inj start
    rw [List.append_assoc]
    exact head_refused opens refused (rest ++ more)
  | _ => nomatch start

/-- Reading can stop anywhere: what was read stays, and the tail is read again with what comes after it. -/
theorem decode_append (bytes more : List UInt8) : decode (bytes ++ more) =
    ((decode bytes).1 ++ (decode ((decode bytes).2 ++ more)).1, (decode ((decode bytes).2 ++ more)).2) := by
  induction bytes using head_induction with
  | done => rfl
  | char start rest_ih => rw [decode_char start, decode_char (head_append_of_char start more), rest_ih, List.cons_append]
  | malformed start rest_ih =>
    rw [decode_malformed start, decode_malformed (head_append_of_malformed start more), rest_ih, List.cons_append]
  | unfinished opens => rw [opens.decode, List.nil_append]

theorem decode_tail (bytes : List UInt8) : (decode bytes).2 = [] ∨ Opens (decode bytes).2 := by
  induction bytes using head_induction with
  | done => exact .inl rfl
  | char start rest_ih => rwa [decode_char start]
  | malformed start rest_ih => rwa [decode_malformed start]
  | unfinished opens => exact .inr (by rwa [opens.decode])

theorem decodeLossy_eq (bytes : List UInt8) :
    decodeLossy bytes = (decode bytes).1 ++ if (decode bytes).2 = [] then [] else [replacement] := by
  unfold decodeLossy
  split
  next text whole => rw [whole, if_pos rfl, List.append_nil]
  next text tail some whole => rw [whole, if_neg (by simpa using some)]

/-- Reading a tail again changes nothing. -/
theorem decode_tail_again (bytes : List UInt8) : decode (decode bytes).2 = ([], (decode bytes).2) := by
  obtain none | opens := decode_tail bytes
  · rw [none]
    rfl
  · exact opens.decode

/-- What is left as a tail is a text of its own. -/
theorem decodeLossy_split (bytes : List UInt8) : decodeLossy bytes = (decode bytes).1 ++ decodeLossy (decode bytes).2 := by
  rw [decodeLossy_eq bytes, decodeLossy_eq (decode bytes).2, decode_tail_again, List.nil_append]

theorem decodeLossy_append (bytes more : List UInt8) :
    decodeLossy (bytes ++ more) = (decode bytes).1 ++ decodeLossy ((decode bytes).2 ++ more) := by
  rw [decodeLossy_eq, decodeLossy_eq, decode_append, List.append_assoc]

end

/-- Some character's encoding starts with the bytes. -/
def Begins (bytes : List UInt8) : Prop := ∃ c : Char, bytes <+: utf8EncodeChar c

/-- The bytes `bad`, with `rest` after them, are a maximal sequence that belongs to no character: the beginning of a
character that does not go on as one, as far as it is such a beginning, or else a single byte. -/
structure Invalid (bad rest : List UInt8) : Prop where
  someByte : bad ≠ []
  noChar : ∀ c : Char, ¬utf8EncodeChar c <+: bad ++ rest
  shape : Begins bad ∨ bad.length = 1
  maximal : ∀ longer, longer <+: bad ++ rest → bad.length < longer.length → ¬Begins longer

/-- The text that the bytes stand for when each maximal invalid sequence in them is replaced. -/
inductive Reads : List UInt8 → List Char → Prop where
  | done : Reads [] []
  | char (c : Char) {rest : List UInt8} {text : List Char} (reads : Reads rest text) :
      Reads (utf8EncodeChar c ++ rest) (c :: text)
  | invalid {bad rest : List UInt8} {text : List Char} (invalid : Invalid bad rest) (reads : Reads rest text) :
      Reads (bad ++ rest) (replacement :: text)

section

variable {bytes bad rest : List UInt8} {text : List Char}

theorem Opens.begins (opens : Opens bytes) : Begins bytes := by
  obtain ⟨more, v, -, spells⟩ := opens.completed
  exact ⟨Char.ofNat v, more, spells.encode.symm⟩

theorem Opens.ne_encode (opens : Opens bytes) (c : Char) : bytes ≠ utf8EncodeChar c := by
  rintro rfl
  have whole := head_encode c []
  rw [List.append_nil, head_opens opens] at whole
  nomatch whole

/-- Bytes that are refused are no beginning. -/
theorem not_begins_of_malformed (start : head bytes = .malformed rest) : ¬Begins bytes := by
  rintro ⟨c, more, whole⟩
  have char := head_encode c []
  rw [List.append_nil, ← whole, head_append_of_malformed start] at char
  nomatch char

theorem not_encode_isPrefix_of_malformed (start : head bytes = .malformed rest) (c : Char) : ¬utf8EncodeChar c <+: bytes := by
  rintro ⟨more, rfl⟩
  rw [head_encode] at start
  nomatch start

/-- What is refused is a maximal invalid sequence. -/
theorem invalid_of_head (start : head bytes = .malformed rest) : ∃ bad, bytes = bad ++ rest ∧ Invalid bad rest := by
  have noChar := not_encode_isPrefix_of_malformed start
  generalize same : head bytes = found at start
  cases same ▸ seen bytes with
  | @alone byte least range rest =>
    obtain rfl := Head.malformed.inj start
    refine ⟨[byte], rfl, List.cons_ne_nil byte [], noChar, .inr rfl, ?_⟩
    rintro longer ⟨more, whole⟩ long
    cases longer with
    | nil => nomatch long
    | cons first longer =>
      obtain ⟨rfl, -⟩ := List.cons.inj whole
      exact not_begins_of_malformed (head_alone least range longer)
  | @refused bad byte opens refused rest =>
    obtain rfl := Head.malformed.inj start
    refine ⟨bad, rfl, opens.ne_nil, noChar, .inl opens.begins, ?_⟩
    intro longer within long
    have upTo : bad ++ [byte] <+: bad ++ byte :: rest := ⟨rest, (List.append_cons ..).symm⟩
    obtain ⟨after, rfl⟩ := List.prefix_of_prefix_length_le upTo within (by rw [List.length_append]; exact long)
    rw [← List.append_cons]
    exact not_begins_of_malformed (head_refused opens refused after)
  | _ => nomatch start

theorem Opens.invalid (opens : Opens bytes) : Invalid bytes [] where
  someByte := opens.ne_nil
  noChar c := by
    rintro ⟨more, whole⟩
    have char := head_encode c more
    rw [whole, List.append_nil, head_opens opens] at char
    nomatch char
  shape := .inl opens.begins
  maximal longer within long := by
    rw [List.append_nil] at within
    exact absurd within.length_le (Nat.not_le_of_lt long)

/-- There is one maximal invalid sequence at most. -/
theorem Invalid.unique {bad' rest' : List UInt8} (invalid : Invalid bad rest) (also : Invalid bad' rest')
    (same : bad ++ rest = bad' ++ rest') : bad = bad' ∧ rest = rest' := by
  have notLonger {bad rest bad' rest' : List UInt8} (invalid : Invalid bad rest) (also : Invalid bad' rest')
      (same : bad ++ rest = bad' ++ rest') : bad'.length ≤ bad.length := by
    refine Nat.le_of_not_lt fun longer => ?_
    have some := List.length_pos_iff.2 invalid.someByte
    obtain begins | single := also.shape
    · exact invalid.maximal bad' (same ▸ List.prefix_append ..) longer begins
    · omega
  exact List.append_inj same (Nat.le_antisymm (notLonger also invalid same.symm) (notLonger invalid also same))

theorem Invalid.head (invalid : Invalid bad rest) :
    Utf8.head (bad ++ rest) = .malformed rest ∨ Opens (bad ++ rest) ∧ rest = [] := by
  cases start : Utf8.head (bad ++ rest) with
  | done =>
    generalize whole : bad ++ rest = bytes at start
    cases start ▸ seen bytes with
    | done => exact absurd (List.append_eq_nil_iff.1 whole).1 invalid.someByte
  | char c after => exact absurd ⟨after, (eq_of_head_char start).symm⟩ (invalid.noChar c)
  | malformed after =>
    obtain ⟨other, same, also⟩ := invalid_of_head start
    exact .inl (by rw [(invalid.unique also same).2])
  | unfinished =>
    have opens : Opens (bad ++ rest) := by
      generalize bad ++ rest = bytes at start
      cases start ▸ seen bytes with
      | unfinished opens => exact opens
    exact .inr ⟨opens, (invalid.unique opens.invalid (by rw [List.append_nil])).2⟩

theorem decodeLossy_char {c : Char} (start : head bytes = .char c rest) : decodeLossy bytes = c :: decodeLossy rest := by
  rw [decodeLossy_eq, decodeLossy_eq, decode_char start, List.cons_append]

theorem decodeLossy_malformed (start : head bytes = .malformed rest) :
    decodeLossy bytes = replacement :: decodeLossy rest := by
  rw [decodeLossy_eq, decodeLossy_eq, decode_malformed start, List.cons_append]

theorem Opens.decodeLossy (opens : Opens bytes) : decodeLossy bytes = [replacement] := by
  rw [decodeLossy_eq, opens.decode, if_neg opens.ne_nil, List.nil_append]

/-- Reading replaces maximal invalid sequences, and there is no other text that does. -/
theorem reads_iff : Reads bytes text ↔ decodeLossy bytes = text := by
  constructor
  · intro reads
    induction reads with
    | done => rfl
    | char c _ text_ih => rw [decodeLossy_char (head_encode c _), text_ih]
    | invalid invalid reads text_ih =>
      obtain malformed | ⟨opens, rfl⟩ := invalid.head
      · rw [decodeLossy_malformed malformed, text_ih]
      · rw [opens.decodeLossy, ← text_ih]
        rfl
  · rintro rfl
    induction bytes using head_induction with
    | done => exact .done
    | char start reads =>
      rw [decodeLossy_char start, eq_of_head_char start]
      exact .char _ reads
    | malformed start reads =>
      obtain ⟨bad, rfl, invalid⟩ := invalid_of_head start
      rw [decodeLossy_malformed start]
      exact .invalid invalid reads
    | @unfinished bytes opens =>
      rw [opens.decodeLossy]
      exact List.append_nil bytes ▸ .invalid opens.invalid .done

end

end Text.Utf8

end Testbench
