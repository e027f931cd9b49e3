import Mathlib.Tactic.Common
import Testbench.Report.Json

/-! A reader of JSON texts, with blanks wherever they are allowed and every escape a string can have. It takes back
what is written, whatever the strings are, and what is written fits on a line. -/

namespace Testbench

namespace Json

/-- Blanks may stand around every part of a text. -/
def isBlank (c : Char) : Bool := c = ' ' || c = '\t' || c = '\n' || c = '\r'

def skipBlanks (text : List Char) : List Char := text.dropWhile isBlank

def hexDigit? (c : Char) : Option Nat :=
  if '0' ≤ c ∧ c ≤ '9' then some (c.toNat - '0'.toNat)
  else if 'a' ≤ c ∧ c ≤ 'f' then some (c.toNat - 'a'.toNat + 10)
  else if 'A' ≤ c ∧ c ≤ 'F' then some (c.toNat - 'A'.toNat + 10)
  else none

/-- Four hexadecimal digits. -/
def unit? : List Char → Option (Nat × List Char)
  | a :: b :: c :: d :: rest => do
    let a ← hexDigit? a
    let b ← hexDigit? b
    let c ← hexDigit? c
    let d ← hexDigit? d
    return (((a * 16 + b) * 16 + c) * 16 + d, rest)
  | _ => none

/-- The character a letter after a backslash stands for. -/
def letter? (c : Char) : Option Char :=
  if c = '"' ∨ c = '\\' ∨ c = '/' then some c
  else if c = 'b' then some '\x08'
  else if c = 'f' then some '\x0c'
  else if c = 'n' then some '\n'
  else if c = 'r' then some '\r'
  else if c = 't' then some '\t'
  else none

/-- What follows the first half of a character that is written in two halves. -/
def secondHalf? (first : Nat) : List Char → Option (Char × List Char)
  | '\\' :: 'u' :: rest => do
    let (second, rest) ← unit? rest
    if 0xDC00 ≤ second ∧ second ≤ 0xDFFF then
      return (Char.ofNat (0x10000 + (first - 0xD800) * 1024 + (second - 0xDC00)), rest)
    else none
  | _ => none

/-- What follows a backslash. -/
def escaped? : List Char → Option (Char × List Char)
  | [] => none
  | c :: rest =>
    if c = 'u' then do
      let (unit, rest) ← unit? rest
      if unit < 0xD800 ∨ 0xDFFF < unit then return (Char.ofNat unit, rest)
      else if unit < 0xDC00 then secondHalf? unit rest
      else none
    else (letter? c).map (·, rest)

/-- One character of a string. -/
def char? : List Char → Option (Char × List Char)
  | [] => none
  | c :: rest =>
    if c = '\\' then escaped? rest
    else if c = '"' ∨ c.toNat < 32 then none
    else some (c, rest)

/-- The characters up to the closing quote. -/
def string? : Nat → List Char → Option (List Char × List Char)
  | 0, _ => none
  | steps + 1, text =>
    if text.head? = some '"' then some ([], text.tail)
    else do
      let (c, rest) ← char? text
      let (more, rest) ← string? steps rest
      return (c :: more, rest)

def word? (word : String) (value : Json) (text : List Char) : Option (Json × List Char) :=
  if word.toList <+: text then some (value, text.drop word.length) else none

/-- A number does not start with a zero unless it is one. -/
def number? (text : List Char) : Option (Json × List Char) :=
  let digits := text.takeWhile Char.isDigit
  if digits = [] ∨ digits.head? = some '0' ∧ digits ≠ ['0'] then none
  else some (.number (Nat.ofDigitChars 10 digits 0), text.dropWhile Char.isDigit)

mutual

def value? : Nat → List Char → Option (Json × List Char)
  | 0, _ => none
  | steps + 1, text =>
    match skipBlanks text with
    | [] => none
    | c :: rest =>
      if c = '"' then (string? steps rest).map fun (text, rest) => (.string (String.ofList text), rest)
      else if c = '\x7b' then
        if (skipBlanks rest).head? = some '\x7d' then some (.object [], (skipBlanks rest).tail)
        else (members? steps rest).map fun (members, rest) => (.object members, rest)
      else word? "null" .null (c :: rest) <|> word? "true" (.bool true) (c :: rest) <|>
        word? "false" (.bool false) (c :: rest) <|> number? (c :: rest)

/-- The members of an object, and the brace that closes it. -/
def members? : Nat → List Char → Option (List (String × Json) × List Char)
  | 0, _ => none
  | steps + 1, text => do
    let '"' :: rest := skipBlanks text | none
    let (name, rest) ← string? steps rest
    let ':' :: rest := skipBlanks rest | none
    let (value, rest) ← value? steps rest
    match skipBlanks rest with
    | [] => none
    | c :: rest =>
      if c = ',' then do
        let (members, rest) ← members? steps rest
        return ((String.ofList name, value) :: members, rest)
      else if c = '\x7d' then return ([(String.ofList name, value)], rest)
      else none

end

/-- Every step of reading takes a character at least, so their number is a bound on the steps. -/
def read? (text : List Char) : Option Json := do
  let (value, rest) ← value? (text.length + 1) text
  if skipBlanks rest = [] then return value else none

theorem hexDigit?_digitChar {n : Nat} (small : n < 16) : hexDigit? n.digitChar = some n := by
  revert n
  decide

theorem control_digits {n : Nat} (control : n < 32) : List.replicate (4 - (Text.hex n).length) '0' ++ Text.hex n =
    [Nat.digitChar 0, Nat.digitChar 0, (n / 16).digitChar, (n % 16).digitChar] := by
  revert n
  decide

theorem unit?_digits {a b c d : Nat} (first : a < 16) (second : b < 16) (third : c < 16) (fourth : d < 16)
    (rest : List Char) : unit? (a.digitChar :: b.digitChar :: c.digitChar :: d.digitChar :: rest) =
      some (((a * 16 + b) * 16 + c) * 16 + d, rest) := by
  simp only [unit?, hexDigit?_digitChar first, hexDigit?_digitChar second, hexDigit?_digitChar third,
    hexDigit?_digitChar fourth]
  rfl

/-- The ways a character is written in a string. -/
inductive Written (c : Char) : List Char → Prop where
  | letter {letter : Char} (known : letter? letter = some c) (visible : 32 ≤ letter.toNat) : Written c ['\\', letter]
  | control (low : c.toNat < 32) : Written c ['\\', 'u', Nat.digitChar 0, Nat.digitChar 0, (c.toNat / 16).digitChar,
      (c.toNat % 16).digitChar]
  | plain (noQuote : c ≠ '"') (noBackslash : c ≠ '\\') (visible : 32 ≤ c.toNat) : Written c [c]

theorem written_escape (c : Char) : Written c (escape c) := by
  unfold escape
  split
  next same => subst same; exact .letter rfl (by decide)
  next noQuote =>
  split
  next same => subst same; exact .letter rfl (by decide)
  next noBackslash =>
  split
  next same => subst same; exact .letter rfl (by decide)
  split
  next same => subst same; exact .letter rfl (by decide)
  split
  next same => subst same; exact .letter rfl (by decide)
  split
  next same => subst same; exact .letter rfl (by decide)
  split
  next same => subst same; exact .letter rfl (by decide)
  split
  next low =>
    simp only [control_digits low, List.cons_append, List.nil_append]
    exact .control low
  next visible => exact .plain noQuote noBackslash (by omega)

/-- One character is taken back, whatever it is written as. -/
theorem char?_escape (c : Char) (rest : List Char) : char? (escape c ++ rest) = some (c, rest) := by
  have way := written_escape c
  generalize escape c = shown at way ⊢
  cases way with
  | @letter letter known visible =>
    have noUnit : letter ≠ 'u' := fun same => by
      rw [same] at known
      nomatch known
    simp only [List.cons_append, List.nil_append, char?, escaped?, if_true, if_neg noUnit, known, Option.map_some]
  | control low =>
    have unit := @unit?_digits 0 0 (c.toNat / 16) (c.toNat % 16) (by omega) (by omega) (by omega) (by omega) rest
    have value : ((0 * 16 + 0) * 16 + c.toNat / 16) * 16 + c.toNat % 16 = c.toNat := by omega
    have scalar : c.toNat < 0xD800 ∨ 0xDFFF < c.toNat := .inl (by omega)
    rw [value] at unit
    simp only [List.cons_append, List.nil_append, char?, escaped?, if_true, unit, Option.bind_eq_bind, Option.bind_some,
      if_pos scalar, Char.ofNat_toNat]
    rfl
  | plain noQuote noBackslash visible =>
    simp only [List.cons_append, List.nil_append, char?]
    rw [if_neg noBackslash, if_neg (not_or.2 ⟨noQuote, by omega⟩)]

/-- No character is written in a way that looks like the end of the string. -/
theorem head?_escape (c : Char) : ∃ first rest, escape c = first :: rest ∧ first ≠ '"' := by
  have way := written_escape c
  generalize escape c = shown at way ⊢
  cases way with
  | letter => exact ⟨_, _, rfl, by decide⟩
  | control => exact ⟨_, _, rfl, by decide⟩
  | plain noQuote => exact ⟨_, _, rfl, noQuote⟩

theorem digitChar_visible {n : Nat} (small : n < 16) : 32 ≤ n.digitChar.toNat := by
  revert n
  decide

/-- Nothing a string is written with is a control. -/
theorem visible_of_mem_escape {c shown : Char} (member : shown ∈ escape c) : 32 ≤ shown.toNat := by
  have way := written_escape c
  generalize escape c = written at way member
  cases way with
  | letter known visible =>
    obtain rfl | rfl := by simpa using member
    · decide
    · exact visible
  | control low =>
    obtain rfl | rfl | rfl | rfl | rfl := by simpa using member
    · decide
    · decide
    · decide
    · exact digitChar_visible (by omega)
    · exact digitChar_visible (by omega)
  | plain noQuote noBackslash visible =>
    obtain rfl := by simpa using member
    exact visible

theorem string?_escape (text rest : List Char) {steps : Nat} (enough : (text.flatMap escape).length < steps) :
    string? steps (text.flatMap escape ++ '"' :: rest) = some (text, rest) := by
  induction text generalizing steps with
  | nil =>
    cases steps with
    | zero => nomatch enough
    | succ steps => rfl
  | cons c text text_ih =>
    cases steps with
    | zero => nomatch enough
    | succ steps =>
      obtain ⟨first, more, written, noQuote⟩ := head?_escape c
      rw [List.flatMap_cons, List.length_append] at enough
      have own : 0 < (escape c).length := by rw [written]; exact Nat.succ_pos _
      have goesOn : ((escape c ++ text.flatMap escape) ++ '"' :: rest).head? ≠ some '"' := by
        rw [written]
        simpa using noQuote
      rw [List.flatMap_cons, string?, if_neg goesOn, List.append_assoc, char?_escape]
      simp only [Option.bind_eq_bind, Option.bind_some, text_ih (show (text.flatMap escape).length < steps by omega)]
      rfl

/-- Nothing after a number is taken for a part of it. -/
def Ends (rest : List Char) : Prop := ∀ c ∈ rest.head?, c.isDigit = false

theorem head?_toDigits {n : Nat} (positive : 0 < n) : (Nat.toDigits 10 n).head? ≠ some '0' := by
  induction n using Nat.strongRecOn with
  | _ n smaller =>
    by_cases single : n < 10
    · have digit : ∀ n < 10, 0 < n → [n.digitChar].head? ≠ some '0' := by decide
      rw [Nat.toDigits_of_lt_base single]
      exact digit n single positive
    · have before := smaller (n / 10) (by omega) (by omega)
      obtain ⟨first, digits, shown⟩ := List.exists_cons_of_ne_nil (@Nat.toDigits_ne_nil (n / 10) 10)
      rw [shown] at before
      rw [Nat.toDigits_of_base_le (by decide) (by omega), shown]
      exact before

theorem number?_toDigits (n : Nat) {rest : List Char} (ends : Ends rest) :
    number? (Nat.toDigits 10 n ++ rest) = some (.number n, rest) := by
  have allDigits : ∀ c ∈ Nat.toDigits 10 n, c.isDigit = true := fun c member =>
    Nat.isDigit_of_mem_toDigits (by decide) (by decide) member
  have stops : rest.takeWhile Char.isDigit = [] ∧ rest.dropWhile Char.isDigit = rest := by
    cases rest with
    | nil => exact ⟨rfl, rfl⟩
    | cons c rest =>
      have noDigit := ends c rfl
      simp [noDigit]
  have digits : (Nat.toDigits 10 n ++ rest).takeWhile Char.isDigit = Nat.toDigits 10 n := by
    rw [List.takeWhile_append_of_pos allDigits, stops.1, List.append_nil]
  have after : (Nat.toDigits 10 n ++ rest).dropWhile Char.isDigit = rest := by
    rw [List.dropWhile_append_of_pos allDigits, stops.2]
  have proper : ¬(Nat.toDigits 10 n = [] ∨ (Nat.toDigits 10 n).head? = some '0' ∧ Nat.toDigits 10 n ≠ ['0']) := by
    rintro (none | ⟨zero, other⟩)
    · exact Nat.toDigits_ne_nil none
    · obtain rfl | positive := Nat.eq_zero_or_pos n
      · exact other (Nat.toDigits_zero 10)
      · exact head?_toDigits positive zero
  simp only [number?, digits, after]
  rw [if_neg proper, Nat.ofDigitChars_ten_toDigits]

section

variable {steps : Nat} {rest : List Char}

theorem toList_stringText (text : String) : (stringText text).toList = '"' :: (text.toList.flatMap escape ++ ['"']) := by
  simp [stringText]

theorem toList_memberText (name : String) (value : Json) :
    (memberText (name, value)).toList = (stringText name).toList ++ ':' :: (text value).toList := by
  simp [memberText]

theorem toList_membersText_cons (member next : String × Json) (members : List (String × Json)) :
    (membersText (member :: next :: members)).toList =
      (memberText member).toList ++ ',' :: (membersText (next :: members)).toList := by
  simp [membersText]

theorem toList_text_object (members : List (String × Json)) :
    (text (.object members)).toList = '\x7b' :: ((membersText members).toList ++ ['\x7d']) := by
  simp [text]

theorem membersText_cons (member : String × Json) (members : List (String × Json)) :
    ∃ rest, (membersText (member :: members)).toList = '"' :: rest := by
  obtain ⟨name, value⟩ := member
  cases members with
  | nil => exact ⟨_, by rw [membersText, toList_memberText, toList_stringText, List.cons_append]⟩
  | cons next members =>
    exact ⟨_, by rw [toList_membersText_cons, toList_memberText, toList_stringText, List.cons_append, List.cons_append]⟩

theorem skipBlanks_cons {c : Char} (visible : isBlank c = false) (rest : List Char) : skipBlanks (c :: rest) = c :: rest := by
  simp [skipBlanks, visible]

/-- The quote of a name is never a blank. -/
theorem skipBlanks_quote (rest : List Char) : skipBlanks ('"' :: rest) = '"' :: rest := rfl

theorem value?_string (text : String) (rest : List Char) (enough : (stringText text).toList.length < steps + 1) :
    value? (steps + 1) ((stringText text).toList ++ rest) = some (.string text, rest) := by
  rw [toList_stringText] at enough ⊢
  have fits : (text.toList.flatMap escape).length < steps := by
    simp only [List.length_cons, List.length_append] at enough
    omega
  simp only [List.cons_append, List.append_assoc, List.nil_append, value?, skipBlanks_quote, if_true,
    string?_escape text.toList rest fits, Option.map_some, String.ofList_toList]

theorem value?_number (n : Nat) (ends : Ends rest) :
    value? (steps + 1) ((toString n).toList ++ rest) = some (.number n, rest) := by
  have digits : (toString n).toList = Nat.toDigits 10 n := Nat.toList_repr
  have number := number?_toDigits n ends
  rw [digits]
  obtain ⟨first, more, shown⟩ := List.exists_cons_of_ne_nil (@Nat.toDigits_ne_nil n 10)
  have digit : first.isDigit = true :=
    Nat.isDigit_of_mem_toDigits (by decide) (by decide) (shown ▸ List.mem_cons_self ..)
  have other (c : Char) (noDigit : c.isDigit = false) : first ≠ c := fun same => by
    rw [← same, digit] at noDigit
    nomatch noDigit
  have visible : isBlank first = false := by
    simp [isBlank, other ' ' rfl, other '\t' rfl, other '\n' rfl, other '\r' rfl]
  have noWord (word : String) {c : Char} {letters : List Char} (spelled : word.toList = c :: letters)
      (noDigit : c.isDigit = false) (value : Json) : word? word value (first :: (more ++ rest)) = none := by
    rw [word?, spelled, if_neg]
    exact fun starts => other c noDigit (List.cons_prefix_cons.1 starts).1.symm
  rw [shown, List.cons_append] at number ⊢
  rw [value?, skipBlanks_cons visible]
  simp only [other '"' rfl, other '\x7b' rfl, if_false, noWord "null" rfl rfl, noWord "true" rfl rfl,
    noWord "false" rfl rfl, number]
  rfl

theorem ends_cons {c : Char} (noDigit : c.isDigit = false) (rest : List Char) : Ends (c :: rest) := by
  rintro _ ⟨⟩
  exact noDigit

/-- A member is taken back, and the text goes on with the members after it or with the end of the object. -/
theorem members?_member {name : String} {value : Json} {rest : List Char}
    (enough : (memberText (name, value)).toList.length < steps + 1)
    (valueRead : (text value).toList.length < steps → value? steps ((text value).toList ++ rest) = some (value, rest)) :
    members? (steps + 1) ((memberText (name, value)).toList ++ rest) =
      match skipBlanks rest with
      | [] => none
      | c :: rest =>
        if c = ',' then do
          let (members, rest) ← members? steps rest
          return ((name, value) :: members, rest)
        else if c = '\x7d' then return ([(name, value)], rest)
        else none := by
  rw [toList_memberText, toList_stringText] at enough ⊢
  simp only [List.length_cons, List.length_append, List.length_nil] at enough
  have named : string? steps (name.toList.flatMap escape ++ '"' :: ':' :: ((text value).toList ++ rest)) =
      some (name.toList, ':' :: ((text value).toList ++ rest)) := string?_escape _ _ (by omega)
  simp only [List.cons_append, List.append_assoc, List.nil_append, members?, skipBlanks_quote, named, Option.bind_eq_bind,
    Option.bind_some, skipBlanks_cons (c := ':') rfl, valueRead (by omega), String.ofList_toList]

/-- With a step for each character, values and members of an object are taken back. -/
theorem value?_members?_text (steps : Nat) :
    (∀ (value : Json) (rest : List Char), Ends rest → (text value).toList.length < steps →
      value? steps ((text value).toList ++ rest) = some (value, rest)) ∧
    ∀ (member : String × Json) (members : List (String × Json)) (rest : List Char),
      (membersText (member :: members)).toList.length < steps →
        members? steps ((membersText (member :: members)).toList ++ '\x7d' :: rest) = some (member :: members, rest) := by
  induction steps with
  | zero => exact ⟨fun _ _ _ => nofun, fun _ _ _ => nofun⟩
  | succ steps steps_ih =>
    obtain ⟨ofValue, ofMembers⟩ := steps_ih
    refine ⟨fun value rest ends enough => ?value, fun member members rest enough => ?members⟩
    case value =>
      cases value with
      | null => rfl
      | bool b => cases b <;> rfl
      | number n => exact value?_number n ends
      | string text => exact value?_string text rest enough
      | object members =>
        cases members with
        | nil => rfl
        | cons member members =>
          rw [toList_text_object] at enough ⊢
          simp only [List.length_cons, List.length_append] at enough
          have inside := ofMembers member members rest (by omega)
          obtain ⟨name, written⟩ := membersText_cons member members
          simp only [List.cons_append, List.append_assoc, List.nil_append, value?, skipBlanks_cons (c := '\x7b') rfl, inside]
          rw [written, List.cons_append, skipBlanks_quote]
          rfl
    case members =>
      obtain ⟨name, value⟩ := member
      cases members with
      | nil => exact members?_member enough (ofValue value _ (ends_cons rfl rest))
      | cons next members =>
        rw [toList_membersText_cons] at enough ⊢
        simp only [List.length_append, List.length_cons] at enough
        have restRead := ofMembers next members rest (by omega)
        rw [List.append_assoc, List.cons_append, members?_member (by omega) (ofValue value _ (ends_cons rfl _)),
          skipBlanks_cons rfl]
        simp only [restRead]
        rfl

/-- What is written is read again. -/
theorem read?_text (value : Json) : read? (text value).toList = some value := by
  have whole := (value?_members?_text ((text value).toList.length + 1)).1 value [] nofun (Nat.lt_succ_self _)
  rw [List.append_nil] at whole
  rw [read?, whole]
  rfl

theorem text_injective {value other : Json} (same : text value = text other) : value = other := by
  have read := read?_text value
  rw [same, read?_text] at read
  exact (Option.some.inj read).symm

end

theorem no_newline_stringText (text : String) : '\n' ∉ (stringText text).toList := by
  rw [toList_stringText]
  intro newline
  simp only [List.mem_cons, List.mem_append, List.mem_flatMap, List.not_mem_nil, or_false, Char.reduceEq, false_or] at newline
  obtain ⟨c, -, written⟩ := newline
  exact absurd (visible_of_mem_escape written) (by decide)

mutual

/-- What is written is one line. -/
theorem no_newline_text : ∀ value : Json, '\n' ∉ (text value).toList
  | .null => by decide
  | .bool true => by decide
  | .bool false => by decide
  | .number n => fun newline => by
    have digit := @Nat.isDigit_of_mem_toDigits 10 n _ (by decide) (by decide) (Nat.toList_repr ▸ newline)
    nomatch digit
  | .string text => no_newline_stringText text
  | .object members => by
    rw [toList_text_object]
    simpa using no_newline_membersText members

theorem no_newline_membersText : ∀ members : List (String × Json), '\n' ∉ (membersText members).toList
  | [] => by decide
  | [(name, value)] => by
    rw [membersText, toList_memberText]
    simpa using ⟨no_newline_stringText name, no_newline_text value⟩
  | (name, value) :: next :: members => by
    rw [toList_membersText_cons, toList_memberText]
    simpa using ⟨no_newline_stringText name, no_newline_text value, no_newline_membersText (next :: members)⟩

end

end Json

end Testbench
